import TokenAuthority.Proofs.Policy.Evaluation
import TokenAuthority.Token.Engine

/-!
# Faults of the engine

Why a token does not authenticate and why a bearer may not act. Every fault of these two checks is a
refusal, but for a key that is not found in time; and that a policy has no verdict can be the fault
only while the clock shows less than a minute.
-/

namespace TokenAuthority.Token.Engine

variable {engine : Engine} {now : Seconds} {header : String} {claims : Claims} {target : Uuid}
  {rule : String} {fault : AuthError}

theorem early_of_noVerdict {policy : Policy.Module} {root : String} {input : Json}
    (unjudged : policy.evaluate (verifies? now) root input = .error .noVerdict) :
    now.toInt < 60 := by
  apply Decidable.byContradiction
  intro late
  exact Policy.Module.evaluate_ne_noVerdict (by omega) unjudged

/-! ## What is presented -/

def IsRefusal (fault : AuthError) : Prop :=
  fault.kind = .unauthenticated ∧ fault ≠ .policy .noVerdict

theorem forall_error_bind {First Second : Type} {first : Except AuthError First}
    {rest : First → Except AuthError Second} {holds : AuthError → Prop}
    (firstHolds : ∀ fault, first = .error fault → holds fault)
    (restHolds : ∀ value fault, rest value = .error fault → holds fault) :
    ∀ fault, (first >>= rest) = .error fault → holds fault := by
  intro fault failed
  cases first with
  | error cause =>
      cases failed
      exact firstHolds _ rfl
  | ok value => exact restHolds value fault failed

theorem isRefusal_of_error {Value : Type} (refusal : IsRefusal fault) :
    ∀ other, (.error fault : Except AuthError Value) = .error other → IsRefusal other := by
  rintro other ⟨⟩
  exact refusal

theorem isRefusal_of_bearerToken :
    ∀ fault, bearerToken header = .error fault → IsRefusal fault := by
  dsimp only [bearerToken]
  split
  · exact isRefusal_of_error ⟨rfl, by simp⟩
  split
  · split
    · exact isRefusal_of_error ⟨rfl, by simp⟩
    · simp
  · exact isRefusal_of_error ⟨rfl, by simp⟩

theorem isRefusal_of_malformed {Meaning : Type} {read : Except TokenFault Meaning} :
    ∀ fault, read.mapError .malformedToken = .error fault → IsRefusal fault := by
  cases read with
  | error malformed => exact isRefusal_of_error ⟨rfl, by simp⟩
  | ok meaning => simp [Except.mapError]

theorem isRefusal_of_presented :
    ∀ fault, presented header = .error fault → IsRefusal fault := by
  unfold presented
  refine forall_error_bind isRefusal_of_bearerToken fun token => ?_
  dsimp only
  cases Parts.ofToken? token.toList with
  | none => exact isRefusal_of_error ⟨rfl, by simp⟩
  | some parts =>
      refine forall_error_bind (by simp) fun parts => ?_
      refine forall_error_bind isRefusal_of_malformed fun tokenHeader => ?_
      cases tokenHeader.keyId with
      | none => exact isRefusal_of_error ⟨rfl, by simp⟩
      | some keyId =>
          dsimp only
          split
          · exact isRefusal_of_error ⟨rfl, by simp⟩
          · refine forall_error_bind (by simp) fun keyId => ?_
            refine forall_error_bind isRefusal_of_malformed fun claims => ?_
            simp [pure, Except.pure]

/-! ## The two checks -/

/-- Whether the key that a header asks for is not found in time. -/
def LooksUpInVain (engine : Engine) (header : String) : Prop :=
  ∃ bearer, presented header = .ok bearer ∧
    ((engine.keys.publicKey bearer.keyId).within engine.keyTimeout).value = none

theorem kind_of_authenticate (failed : (engine.authenticate now header).value = .error fault) :
    (fault.kind = .unauthenticated ∨ fault = .timeout ∧ engine.LooksUpInVain header) ∧
      (fault = .policy .noVerdict → now.toInt < 60) := by
  unfold authenticate at failed
  -- It may fail at the header, at the key, and at the policy or what the policy accepts.
  split at failed
  · rename_i isFault
    cases failed
    have refusal := isRefusal_of_presented _ isFault
    exact ⟨.inl refusal.1, fun unjudged => absurd unjudged refusal.2⟩
  rename_i bearer isBearer
  simp only [Awaited.map] at failed
  split at failed
  · rename_i never
    cases failed
    exact ⟨.inr ⟨rfl, bearer, isBearer, never⟩, by simp⟩
  · cases failed
    exact ⟨.inl rfl, by simp⟩
  rename_i key found
  unfold accept at failed
  split at failed
  · rename_i obstacle unaccepted
    cases failed
    refine ⟨.inl rfl, ?_⟩
    rintro ⟨⟩
    exact early_of_noVerdict unaccepted
  · cases failed
    exact ⟨.inl rfl, by simp⟩
  · split at failed
    · cases failed
      exact ⟨.inl rfl, by simp⟩
    · cases failed

theorem kind_of_authorize (failed : engine.authorize now claims target rule = .error fault) :
    fault.kind = .unauthenticated ∧ (fault = .policy .noVerdict → now.toInt < 60) := by
  unfold authorize at failed
  split at failed
  · cases failed
    exact ⟨rfl, by simp⟩
  split at failed
  · rename_i obstacle unpermitted
    cases failed
    refine ⟨rfl, ?_⟩
    rintro ⟨⟩
    exact early_of_noVerdict unpermitted
  · cases failed
    exact ⟨rfl, by simp⟩
  · cases failed

end TokenAuthority.Token.Engine
