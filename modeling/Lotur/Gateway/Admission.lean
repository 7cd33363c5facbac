import Lotur.Gateway.SessionEffects

/-! `createGatewayAdmission`: credential reservations, the slots of carriers that have not
greeted, and the attempts to authorize one. The registered sessions are read from the gateway. -/
namespace Lotur.Gateway

structure AdmissionConfig where
  maxOutstandingCarrierCredentials : ℕ
  maxOutstandingCarrierCredentialsPerAccount : ℕ
  carrierCredentialsPerMinute : ℕ
  carrierCredentialsPerAccountPerMinute : ℕ
  deriving DecidableEq, Repr

def DEFAULT_ADMISSION_CONFIG : AdmissionConfig where
  maxOutstandingCarrierCredentials := 128
  maxOutstandingCarrierCredentialsPerAccount := 8
  carrierCredentialsPerMinute := 1000
  carrierCredentialsPerAccountPerMinute := 60

def CREATE_RESERVATION_TTL_MS : ℕ := 60000

/-- The state of `createFixedWindowRateLimiter`. -/
structure FixedWindowRateLimiter where
  windowStartedAt : ℕ
  globalCount : ℕ
  keyCounts : Token → ℕ

def FixedWindowRateLimiter.new (now : ℕ) : FixedWindowRateLimiter :=
  { windowStartedAt := now, globalCount := 0, keyCounts := fun _ => 0 }

def FixedWindowRateLimiter.admit (limiter : FixedWindowRateLimiter)
    (globalLimit perKeyLimit checkedAt : ℕ) (key : Token) : FixedWindowRateLimiter × Bool :=
  let current := if checkedAt - limiter.windowStartedAt ≥ 60000 then .new checkedAt else limiter
  if current.globalCount ≥ globalLimit ∨ current.keyCounts key ≥ perKeyLimit then (current, false)
  else ({ current with
    globalCount := current.globalCount + 1
    keyCounts := Function.update current.keyCounts key (current.keyCounts key + 1) }, true)

/-- A counter whose slots are given back by callbacks, each with a `released` flag of its own. -/
structure Slots where
  inUse : ℤ
  callbacks : ℕ
  released : Finset ℕ
  deriving DecidableEq

namespace Slots

def new : Slots := { inUse := 0, callbacks := 0, released := ∅ }

/-- The slot is taken, and the callback that gives it back is the next one. -/
def reserve (slots : Slots) : Slots :=
  { slots with inUse := slots.inUse + 1, callbacks := slots.callbacks + 1 }

def release (slots : Slots) (callback : ℕ) : Slots :=
  if callback ∈ slots.released then slots
  else { slots with
    released := insert callback slots.released
    inUse := slots.inUse - 1 }

/-- The counter is the number of callbacks that have not run. -/
def Sound (slots : Slots) : Prop :=
  slots.released ⊆ Finset.range slots.callbacks ∧
    slots.inUse = slots.callbacks - slots.released.card

theorem Sound.nonneg {slots : Slots} (h : slots.Sound) : 0 ≤ slots.inUse := by
  have hcard := Finset.card_le_card h.1
  rw [Finset.card_range] at hcard
  have hcount := h.2
  omega

theorem new_sound : new.Sound := ⟨Finset.empty_subset _, rfl⟩

theorem Sound.reserve {slots : Slots} (h : slots.Sound) : slots.reserve.Sound := by
  refine ⟨h.1.trans (Finset.range_mono (Nat.le_succ _)), ?_⟩
  have hcount := h.2
  simp only [Slots.reserve]
  push_cast
  omega

theorem Sound.release {slots : Slots} (h : slots.Sound) {callback : ℕ}
    (hissued : callback < slots.callbacks) : (slots.release callback).Sound := by
  unfold Slots.release
  split_ifs with hreleased
  · exact h
  · refine ⟨Finset.insert_subset (Finset.mem_range.mpr hissued) h.1, ?_⟩
    have hcount := h.2
    simp only [Finset.card_insert_of_notMem hreleased]
    push_cast
    omega

theorem release_le (slots : Slots) (callback : ℕ) : (slots.release callback).inUse ≤ slots.inUse := by
  unfold release
  split_ifs
  · exact le_rfl
  · exact Int.sub_le_self _ zero_le_one

/-- A callback that has run does nothing when it runs again. -/
theorem release_again (slots : Slots) (callback : ℕ) :
    (slots.release callback).release callback = slots.release callback := by
  have hreleased : callback ∈ (slots.release callback).released := by
    unfold release
    split_ifs with hbefore
    · exact hbefore
    · exact Finset.mem_insert_self callback slots.released
  generalize slots.release callback = after at hreleased
  unfold release
  rw [if_pos hreleased]

end Slots

/-- `purpose` is `"resume"` when `forResume` holds and `"create"` otherwise. -/
structure CredentialReservation where
  accountId : Token
  forResume : Bool
  tunnelId : Token
  expiresAt : ℕ
  deriving DecidableEq, Repr

/-- Reservation ids are random, so each is new; `reservationCount` is the next one. -/
structure GatewayAdmission where
  credentialReservations : List (ℕ × CredentialReservation)
  reservationCount : ℕ
  carrierCredentialRate : FixedWindowRateLimiter
  pendingCarrierConnections : Slots
  carrierAuthorizationAttempts : Slots

namespace GatewayAdmission

variable (admission : GatewayAdmission) (ctx : Context) (config : AdmissionConfig)
  (sessions : State)

def new (now : ℕ) : GatewayAdmission where
  credentialReservations := []
  reservationCount := 0
  carrierCredentialRate := .new now
  pendingCarrierConnections := .new
  carrierAuthorizationAttempts := .new

def cleanupCredentialReservations (checkedAt : ℕ) : GatewayAdmission :=
  { admission with
    credentialReservations := admission.credentialReservations.filter
      fun entry => !decide (entry.2.expiresAt ≤ checkedAt) }

def reservedBy (accountId : Option Token) : ℕ :=
  admission.credentialReservations.countP fun entry => some entry.2.accountId = accountId

/-- What `canAdmitNewTunnel` reads of admission itself, for the account it is asked about. -/
def moment (now : ℕ) (isReady : Bool) (nonce : List UInt8) (accountId : Option Token) : Moment where
  now := now
  isReady := isReady
  pendingElsewhere :=
    (admission.pendingCarrierConnections.inUse + admission.credentialReservations.length).toNat
  reservedByAccount := admission.reservedBy accountId
  nonce := nonce

def hasPendingTunnelCapacity : Bool :=
  let counted := sessions.registered.filter fun session => !session.terminal
  decide (admission.pendingCarrierConnections.inUse + admission.credentialReservations.length +
    counted.countP State.isPending < ctx.maxPendingTunnels)

/-- `none` stands for a refusal, and a number for the callback that deletes the reservation. -/
def reserveCarrierCredential (accountId : Token) (forResume : Bool) (tunnelId : Token) (now : ℕ) :
    GatewayAdmission × Option ℕ :=
  let admission := admission.cleanupCredentialReservations now
  if !admission.hasPendingTunnelCapacity ctx sessions then (admission, none)
  else if !forResume && !sessions.canAdmitNewTunnel ctx
      (admission.moment now false [] (some accountId)) (some accountId) then (admission, none)
  else if admission.credentialReservations.length ≥ config.maxOutstandingCarrierCredentials ∨
      admission.reservedBy (some accountId) ≥ config.maxOutstandingCarrierCredentialsPerAccount then
    (admission, none)
  else
    let (rate, admitted) := admission.carrierCredentialRate.admit
      config.carrierCredentialsPerMinute config.carrierCredentialsPerAccountPerMinute now accountId
    let admission := { admission with carrierCredentialRate := rate }
    if !admitted then (admission, none)
    else
      let reservation := CredentialReservation.mk accountId forResume tunnelId
        (now + CREATE_RESERVATION_TTL_MS)
      ({ admission with
        credentialReservations :=
          admission.credentialReservations ++ [(admission.reservationCount, reservation)]
        reservationCount := admission.reservationCount + 1 }, some admission.reservationCount)

/-- The callback that `reserveCarrierCredential` returns. -/
def releaseCarrierCredential (reservationId : ℕ) : GatewayAdmission :=
  { admission with
    credentialReservations := admission.credentialReservations.filter
      fun entry => entry.1 ≠ reservationId }

def consumeCredentialReservation (authorization : DeveloperAuthorization) (now : ℕ) :
    GatewayAdmission :=
  let admission := admission.cleanupCredentialReservations now
  { admission with
    credentialReservations := admission.credentialReservations.eraseP fun entry =>
      entry.2.accountId = authorization.owner.accountId &&
        entry.2.forResume = authorization.forResume && entry.2.tunnelId = authorization.tunnelId }

/-- `none` stands for a refusal, and a number for the callback that gives the slot back. -/
def reservePendingCarrierConnection (now : ℕ) : GatewayAdmission × Option ℕ :=
  let admission := admission.cleanupCredentialReservations now
  if !admission.hasPendingTunnelCapacity ctx sessions then (admission, none)
  else ({ admission with
    pendingCarrierConnections := admission.pendingCarrierConnections.reserve },
      some admission.pendingCarrierConnections.callbacks)

def releasePendingCarrierConnection (callback : ℕ) : GatewayAdmission :=
  { admission with
    pendingCarrierConnections := admission.pendingCarrierConnections.release callback }

def reserveCarrierAuthorizationAttempt : GatewayAdmission × Option ℕ :=
  if admission.carrierAuthorizationAttempts.inUse ≥ ctx.maxPendingTunnels then (admission, none)
  else ({ admission with
    carrierAuthorizationAttempts := admission.carrierAuthorizationAttempts.reserve },
      some admission.carrierAuthorizationAttempts.callbacks)

def releaseCarrierAuthorizationAttempt (callback : ℕ) : GatewayAdmission :=
  { admission with
    carrierAuthorizationAttempts := admission.carrierAuthorizationAttempts.release callback }

/-- `close` when the gateway shuts down. -/
def close : GatewayAdmission := { admission with credentialReservations := [] }

end GatewayAdmission

end Lotur.Gateway
