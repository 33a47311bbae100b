import UnionBridge.AdvanceFunds.Flow

/-!
# Attempts to register

At three steps the selected operator submits a proof to a contract. An attempt asks the native bridge
first and the contract only if the bridge sees enough confirmations; it ends accepted, lacking
confirmations, or refused. How it ended can be read off the calls of the flow (`lastAttempt`), and it
is what the step reports.
-/

namespace UnionBridge.AdvanceFunds

open Contracts Bitvmx Effect

inductive AttemptEnd where
  | accepted
  | lacking
  | refused
deriving DecidableEq

def registerStep : Call → Option Steps
  | .registerAdvanceFunds _ _ => some .registerOrWaitRskAdvanceFunds
  | .registerReimbursementKickoff _ _ => some .registerOrWaitRskReimbursementKickoff
  | .registerOperatorTake _ => some .registerOrWaitRskOperatorTake
  | _ => none

def registrationEnd : Except DomainErrors TxSentOutput → AttemptEnd
  | .ok _ => .accepted
  | .error (.missingConfirmationsOnNativeBridge _) => .lacking
  | .error _ => .refused

/-- What the answer of the native bridge means, unless the attempt goes on. -/
def verificationEnd (required : UInt32) (answer : Except String Bytes) : Option AttemptEnd :=
  match (answer.bind decodeConfirmations).mapError fun e =>
      DomainErrors.unhandledContractError ("Failed to get bitcoin confirmations: " ++ e) with
  | .ok confirmations => if required ≤ confirmations then none else some .lacking
  | .error e =>
    match (parseNativeBridgeErrorCode e).bind nativeBridgeErrorReason with
    | some _ => some .lacking
    | none => some .refused

variable (verifier : NativeBridgeVerifier)

/-- What a call says about the attempt it belongs to. -/
def attemptEnd : LogEntry → Option AttemptEnd
  | ⟨.getBtcTransactionConfirmations _, answer⟩ =>
    verificationEnd verifier.requiredConfirmations answer
  | ⟨.registerAdvanceFunds _ _, answer⟩ => some (registrationEnd answer)
  | ⟨.registerReimbursementKickoff _ _, answer⟩ => some (registrationEnd answer)
  | ⟨.registerOperatorTake _, answer⟩ => some (registrationEnd answer)
  | _ => none

def lastAttempt (log : Contracts.Log) : Option AttemptEnd :=
  log.findSome? (attemptEnd verifier)

/-- The step whose registration the contract accepted with this call. -/
def acceptedStep (entry : LogEntry) : Option Steps :=
  match entry with
  | ⟨.registerAdvanceFunds _ _, .ok _⟩ => some .registerOrWaitRskAdvanceFunds
  | ⟨.registerReimbursementKickoff _ _, .ok _⟩ => some .registerOrWaitRskReimbursementKickoff
  | ⟨.registerOperatorTake _, .ok _⟩ => some .registerOrWaitRskOperatorTake
  | _ => none

/-- The call belongs to no attempt. -/
def Idle (c : Call) : Prop :=
  c.submittedProof = none ∧ ∀ callData, c ≠ .getBtcTransactionConfirmations callData

theorem attemptEnd_of_idle {verifier : NativeBridgeVerifier} {entry : LogEntry}
    (h : Idle entry.1) : attemptEnd verifier entry = none := by
  obtain ⟨c, answer⟩ := entry
  obtain ⟨hproof, hquery⟩ := h
  cases c
  case getBtcTransactionConfirmations callData => exact absurd rfl (hquery callData)
  case registerAdvanceFunds => cases hproof
  case registerReimbursementKickoff => cases hproof
  case registerOperatorTake => cases hproof
  all_goals rfl

theorem attemptEnd_of_acceptedStep {entry : LogEntry}
    {step : Steps} (h : acceptedStep entry = some step) :
    attemptEnd verifier entry = some .accepted ∧ registerStep entry.1 = some step := by
  unfold acceptedStep at h
  split at h
  · cases h
    exact ⟨rfl, rfl⟩
  · cases h
    exact ⟨rfl, rfl⟩
  · cases h
    exact ⟨rfl, rfl⟩
  · cases h

/-! ## Attempts between two states -/

/-- The calls between two logs: how the last attempt among them ended, if there was one. Nothing was
accepted unless it ended so. -/
def Attempted (ended : Option AttemptEnd) (log log' : Contracts.Log) : Prop :=
  ∃ new, log' = new ++ log ∧ lastAttempt verifier new = ended
    ∧ (ended ≠ some .accepted → ∀ entry ∈ new, acceptedStep entry = none)

namespace Attempted

variable {verifier : NativeBridgeVerifier} {ended : Option AttemptEnd} {a b c : Contracts.Log}

theorem refl (log : Contracts.Log) : Attempted verifier none log log :=
  ⟨[], rfl, rfl, fun _ _ h => nomatch h⟩

theorem entry (verifier : NativeBridgeVerifier) (entry : LogEntry) (log : Contracts.Log) :
    Attempted verifier (attemptEnd verifier entry) log (entry :: log) := by
  refine ⟨[entry], rfl, ?_, fun hended e he => ?_⟩
  · rw [lastAttempt, List.findSome?_cons]
    cases attemptEnd verifier entry with
    | none => rfl
    | some ended => rfl
  · rw [List.mem_singleton.mp he]
    cases hstep : acceptedStep entry with
    | none => rfl
    | some step => exact absurd (attemptEnd_of_acceptedStep _ hstep).1 hended

theorem trans {ended' : Option AttemptEnd} (h : Attempted verifier ended a b)
    (h' : Attempted verifier ended' b c) (hone : ended = none ∨ ended' = none) :
    Attempted verifier (ended'.or ended) a c := by
  obtain ⟨new, rfl, rfl, hnew⟩ := h
  obtain ⟨new', rfl, rfl, hnew'⟩ := h'
  refine ⟨new' ++ new, (List.append_assoc _ _ _).symm, ?_, fun hended e he => ?_⟩
  · rw [lastAttempt, List.findSome?_append]
    rfl
  · rcases hone with hnone | hnone
    · rw [hnone, Option.or_none] at hended
      rcases List.mem_append.mp he with he | he
      · exact hnew' hended e he
      · exact hnew (by rw [hnone]; exact nofun) e he
    · rw [hnone, Option.none_or] at hended
      rcases List.mem_append.mp he with he | he
      · exact hnew' (by rw [hnone]; exact nofun) e he
      · exact hnew hended e he

theorem silent_then (h : Attempted verifier none a b) (h' : Attempted verifier ended b c) :
    Attempted verifier ended a c := by
  have hboth := h.trans h' (.inl rfl)
  rwa [Option.or_none] at hboth

theorem then_silent (h : Attempted verifier ended a b) (h' : Attempted verifier none b c) :
    Attempted verifier ended a c := by
  have hboth := h.trans h' (.inr rfl)
  rwa [Option.none_or] at hboth

theorem of_idle (h : Adds Idle a b) : Attempted verifier none a b := by
  obtain ⟨new, rfl, hidle⟩ := h
  refine ⟨new, rfl, List.findSome?_eq_none_iff.mpr fun e he => attemptEnd_of_idle (hidle e he),
    fun _ e he => ?_⟩
  cases hstep : acceptedStep e with
  | none => rfl
  | some step =>
    have hended : attemptEnd verifier e = none := attemptEnd_of_idle (hidle e he)
    cases (attemptEnd_of_acceptedStep _ hstep).1.symm.trans hended

end Attempted

/-! ## How a registration ends -/

/-- Why the native bridge may fail to say anything about a proof. -/
inductive VerificationFails (libs : Libs) (env : Env) (verifier : NativeBridgeVerifier)
    (proof : BtcTxSPVProof) : Prop
  | blockHash (h : libs.parseH256 proof.blockHash = none)
  | branchHashes (h : (proof.merkleBranchHashes.val.map fun hash => Hex.encode hash.val).mapM
      parseFixedBytes32 = none)
  | branchPath (h : libs.parseU256 proof.merkleBranchPath = none)
  | answer (log : Contracts.Log) (callData : Bytes)
      (h : attemptEnd verifier ⟨.getBtcTransactionConfirmations callData,
        env.answer log (.getBtcTransactionConfirmations callData)⟩ = some .refused)

/-- What a status of the verifier says about the attempt. -/
inductive VerificationEnds (libs : Libs) (env : Env) (verifier : NativeBridgeVerifier)
    (proof : BtcTxSPVProof) : Except DomainErrors VerificationStatus → Option AttemptEnd → Prop
  | verified : VerificationEnds libs env verifier proof (.ok .verified) none
  | insufficient (required actual : UInt32) : VerificationEnds libs env verifier proof
      (.ok (.insufficientConfirmations required actual)) (some .lacking)
  | failed (e : DomainErrors) (hmissing : ∀ detail, e ≠ .missingConfirmationsOnNativeBridge detail)
      {ended : Option AttemptEnd} (hended : ended = none ∨ ended = some .refused)
      (h : VerificationFails libs env verifier proof) :
      VerificationEnds libs env verifier proof (.error e) ended

section Registration

variable {σ : Type} {config : Config} {libs : Libs} {env : Env} {verifier : NativeBridgeVerifier}
  {proof : BtcTxSPVProof} {w : World σ}

theorem verifyConfirmations_ends :
    wp (verifyConfirmations libs env verifier proof verifier.requiredConfirmations : Program σ _)
      (fun status w' => w'.own = w.own ∧ ∃ ended, Attempted verifier ended w.log w'.log
        ∧ VerificationEnds libs env verifier proof status ended)
      (fun _ _ => False) w := by
  unfold verifyConfirmations
  cases verifier with
  | dummy => exact ⟨rfl, none, .refl _, .verified⟩
  | real required =>
    have hunheard : ∀ {e : DomainErrors}, VerificationFails libs env (.real required) proof →
        (∀ detail, e ≠ .missingConfirmationsOnNativeBridge detail) →
        w.own = w.own ∧ ∃ ended, Attempted (.real required) ended w.log w.log
          ∧ VerificationEnds libs env (.real required) proof (.error e) ended :=
      fun h hmissing => ⟨rfl, none, .refl _, .failed _ hmissing (.inl rfl) h⟩
    simp only [verifyBtcConfirmations]
    split
    · next hhash => exact hunheard (.blockHash hhash) (by rintro _ ⟨⟩)
    simp only [getBtcConfirmations, callGetBtcTransactionConfirmations, wp_bind]
    split
    · next hhashes => exact hunheard (.branchHashes hhashes) (by rintro _ ⟨⟩)
    split
    · next hpath => exact hunheard (.branchPath hpath) (by rintro _ ⟨⟩)
    simp only [wp_bind, wp_providerCall, wp_pure]
    generalize encodeCallData _ _ _ _ = callData
    have hentry := Attempted.entry (.real required) ⟨.getBtcTransactionConfirmations
      callData, env.answer w.log (.getBtcTransactionConfirmations callData)⟩ w.log
    have hended : attemptEnd (.real required) ⟨.getBtcTransactionConfirmations callData,
        env.answer w.log (.getBtcTransactionConfirmations callData)⟩
        = verificationEnd (NativeBridgeVerifier.real required).requiredConfirmations
          (env.answer w.log (.getBtcTransactionConfirmations callData)) := rfl
    -- only the bridge's own errors leave the query
    have hmissing : ∀ e, ((env.answer w.log (.getBtcTransactionConfirmations callData)).bind
        decodeConfirmations).mapError (fun e => DomainErrors.unhandledContractError
          ("Failed to get bitcoin confirmations: " ++ e)) = .error e →
        ∀ detail, e ≠ .missingConfirmationsOnNativeBridge detail := by
      intro e he detail
      cases hbind : (env.answer w.log (.getBtcTransactionConfirmations callData)).bind
          decodeConfirmations with
      | ok confirmations =>
        rw [hbind] at he
        cases he
      | error text =>
        rw [hbind] at he
        cases he
        rintro ⟨⟩
    unfold verificationEnd at hended
    split
    · next confirmations hanswer =>
      rw [hanswer] at hended
      simp only at hended
      rw [wp_ite]
      split
      · next henough =>
        rw [hended, if_pos henough] at hentry
        exact ⟨rfl, none, hentry, .verified⟩
      · next hfew =>
        rw [hended, if_neg hfew] at hentry
        exact ⟨rfl, _, hentry, .insufficient _ _⟩
    · next e hanswer =>
      rw [hanswer] at hended
      simp only at hended
      split
      · next reason hreason =>
        rw [hreason] at hended
        rw [hended] at hentry
        exact ⟨rfl, _, hentry, .insufficient _ _⟩
      · next hreason =>
        rw [hreason] at hended
        rw [hended] at hentry
        exact ⟨rfl, _, hentry, .failed _ (hmissing e hanswer) (.inr rfl) (.answer _ _ hended)⟩

/-- Why a registration may fail for another reason than missing confirmations. -/
inductive RegistrationFails (libs : Libs) (env : Env) (verifier : NativeBridgeVerifier)
    (proof : BtcTxSPVProof) (c : Call) : Prop
  | verification (h : VerificationFails libs env verifier proof)
  | answer (log : Contracts.Log)
      (h : attemptEnd verifier ⟨c, env.answer log c⟩ = some .refused)

/-- **An attempt.** It reports missing confirmations exactly when it ended for lack of them. -/
theorem submitRegistration_ends {w : World Flow} {c : Call}
    {read : c.Answer → Except DomainErrors TxSentOutput}
    (hread : ∀ answer, attemptEnd config.verifier ⟨c, answer⟩ = some (registrationEnd (read answer)))
    (retryReason failure : String) :
    wp (submitRegistration config env proof retryReason failure (perform env c read))
      (fun outcome w' => w'.own = w.own ∧ Attempted config.verifier
        (some (if outcome.isRetry then .lacking else .accepted)) w.log w'.log)
      (fun e w' => e.isError = true ∧ RegistrationFails config.libs env config.verifier proof c
        ∧ ∃ ended, Attempted config.verifier ended w.log w'.log
          ∧ (ended = none ∨ ended = some .refused)) w := by
  simp only [submitRegistration, invokeContractSafe, wp_bind]
  apply wp_mono verifyConfirmations_ends _ fun _ _ h => h.elim
  rintro status w' ⟨hown, ended, hattempted, hends⟩
  cases hends with
  | verified =>
    have hentry := Attempted.entry config.verifier ⟨c, env.answer w'.log c⟩ w'.log
    have hend := hread (env.answer w'.log c)
    simp only [wp_perform]
    split
    · next output hanswer =>
      rw [hend, hanswer] at hentry
      exact ⟨hown, hattempted.silent_then hentry⟩
    · next detail hanswer =>
      rw [hend, hanswer] at hentry
      exact ⟨hown, hattempted.silent_then hentry⟩
    · next e hmissing hanswer =>
      have hrefused : registrationEnd (.error e) = .refused := by
        unfold registrationEnd
        split
        · next heq => cases heq
        · next detail heq =>
          cases heq
          exact absurd rfl (hmissing detail)
        · rfl
      rw [hanswer, hrefused] at hend
      rw [hend] at hentry
      exact ⟨rfl, .answer _ hend, _, hattempted.silent_then hentry, .inr rfl⟩
  | insufficient required actual => exact ⟨hown, hattempted⟩
  | failed e hmissing hended h =>
    simp only [wp_pure, wp_throw]
    exact ⟨rfl, .verification h, _, hattempted, hended⟩

end Registration

end UnionBridge.AdvanceFunds
