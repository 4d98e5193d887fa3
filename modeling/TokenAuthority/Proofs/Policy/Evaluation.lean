import Mathlib
import TokenAuthority.Proofs.Policy.Depth
import TokenAuthority.Proofs.Policy.References
import TokenAuthority.Token.Verification

/-!
# Evaluation of rules

`Module.evaluate` against `Scene.Yields`: a rule has an answer if and only if its body yields it
with at most `maximumDepth` references open at a time. What stands in the way otherwise is the
depth, or a token that cannot be judged because the clock is too near to its beginning.
-/

namespace TokenAuthority.Policy

namespace Module

variable {policy : Module} {verifies? : (token key issuer : String) → Option Bool} {root : String}
  {input : Json}

/-! ## Results of a rule -/

theorem evaluate_of_undefined (undefined : policy.rules.get? root = none) :
    policy.evaluate verifies? root input = .error (.unknownRule policy.package root) := by
  simp [evaluate, undefined]

theorem evaluate_eq_ok_iff {body : Expression} (defined : policy.rules.get? root = some body)
    {answer : Bool} :
    policy.evaluate verifies? root input = .ok answer ↔
      Scene.value { policy, input, verifies? } maximumDepth body = .ok answer := by
  simp only [evaluate, defined]
  cases Scene.value { policy, input, verifies? } maximumDepth body <;> simp [Except.mapError]

theorem evaluate_eq_error_iff {body : Expression} (defined : policy.rules.get? root = some body)
    {obstacle : Obstacle} :
    policy.evaluate verifies? root input = .error (obstacle.report policy.package root) ↔
      Scene.value { policy, input, verifies? } maximumDepth body = .error obstacle := by
  have injective : ∀ other : Obstacle,
      other.report policy.package root = obstacle.report policy.package root ↔
        other = obstacle := by
    intro other
    cases other <;> cases obstacle <;> simp [Obstacle.report]
  simp only [evaluate, defined]
  cases Scene.value { policy, input, verifies? } maximumDepth body <;>
    simp [Except.mapError, injective]

theorem evaluate_eq_noVerdict_iff {body : Expression}
    (defined : policy.rules.get? root = some body) :
    policy.evaluate verifies? root input = .error .noVerdict ↔
      Scene.value { policy, input, verifies? } maximumDepth body = Scene.told none :=
  @evaluate_eq_error_iff policy verifies? root input body defined .noVerdict

theorem evaluate_eq_tooDeep_iff {body : Expression} (defined : policy.rules.get? root = some body) :
    policy.evaluate verifies? root input = .error (.tooDeep root maximumDepth) ↔
      Scene.value { policy, input, verifies? } maximumDepth body = .error .tooDeep :=
  @evaluate_eq_error_iff policy verifies? root input body defined .tooDeep

theorem evaluate_ne_noVerdict {now : Seconds} (late : 60 ≤ now.toInt) :
    policy.evaluate (Token.verifies? now) root input ≠ .error .noVerdict := by
  intro unjudged
  cases defined : policy.rules.get? root with
  | none =>
      rw [evaluate_of_undefined defined] at unjudged
      cases unjudged
  | some body =>
      rcases Scene.yields_of_value ((evaluate_eq_noVerdict_iff defined).mp unjudged) with
        ⟨depth, _, yields⟩
      apply yields.isSome _ rfl
      intro token key issuer untold
      have early := (Token.verifies?_eq_none_iff.mp untold).1
      exact absurd late (Int.not_le.mpr early)

theorem evaluate_of_shallow (sound : policy.Sound) {body : Expression}
    (defined : policy.rules.get? root = some body)
    (shallow : ∀ names, policy.Chain body names → names.length ≤ maximumDepth) :
    (∃ answer, policy.evaluate verifies? root input = .ok answer) ∨
      policy.evaluate verifies? root input = .error .noVerdict := by
  let scene : Scene := { policy, input, verifies? }
  have possible : (∃ verdict, scene.value maximumDepth body = Scene.told verdict) ∨
      scene.value maximumDepth body = .error .tooDeep :=
    Scene.value_cases sound maximumDepth (sound.knows defined)
  rcases possible with ⟨verdict, given⟩ | failed
  · cases verdict with
    | none => exact .inr ((evaluate_eq_noVerdict_iff defined).mpr given)
    | some answer => exact .inl ⟨answer, (evaluate_eq_ok_iff defined).mpr given⟩
  · rcases Scene.chain_of_tooDeep sound (sound.knows defined) failed with ⟨names, length, chain⟩
    have short := shallow names chain
    omega

/-! ## Agreement with the semantics -/

/-- A rule has the answers that its body yields with at most 32 references open at a time. Without
one the depth is exceeded, or a signed token is to be judged by a clock that shows less than a
minute. More room changes no answer, and a chain of 33 that cannot be avoided is too deep. -/
theorem evaluate_meets_semantics (policy : Module) (sound : policy.Sound) (now : Seconds)
    (root : String) (body : Expression) (defined : policy.rules.get? root = some body)
    (input : Json) :
    let scene : Scene := { policy, input, verifies? := Token.verifies? now }
    let result := policy.evaluate (Token.verifies? now) root input
    (∀ answer, result = .ok answer ↔ ∃ depth ≤ 32, scene.Yields body (some answer) depth) ∧
      (result = .error .noVerdict ↔ ∃ depth ≤ 32, scene.Yields body none depth) ∧
      (result = .error (.tooDeep root 32) ↔
        ¬∃ verdict, ∃ depth ≤ 32, scene.Yields body verdict depth) ∧
      (60 ≤ now.toInt → result ≠ .error .noVerdict) ∧
      (∀ token key issuer, Token.verifies? now token key issuer = none ↔
        now.toInt < 60 ∧ (Token.signedAssertion? token key).isSome = true) ∧
      (∀ answer limit, result = .ok answer → 32 ≤ limit → scene.value limit body = .ok answer) ∧
      ((∀ names, policy.Chain body names → names.length ≤ 32) →
        (∃ answer, result = .ok answer) ∨ result = .error .noVerdict) ∧
      (∀ names, policy.Nested scene.Opens body names → names.length = 33 →
        result = .error (.tooDeep root 32)) := by
  intro scene result
  have knows := sound.knows defined
  have possible : (∃ verdict, scene.value maximumDepth body = Scene.told verdict) ∨
      scene.value maximumDepth body = .error .tooDeep := Scene.value_cases sound maximumDepth knows
  have answered : ∀ answer, result = .ok answer ↔
      scene.value maximumDepth body = Scene.told (some answer) :=
    fun answer => evaluate_eq_ok_iff defined
  have unjudged : result = .error .noVerdict ↔ scene.value maximumDepth body = Scene.told none :=
    evaluate_eq_noVerdict_iff defined
  have exceeded : result = .error (.tooDeep root 32) ↔
      scene.value maximumDepth body = .error .tooDeep := evaluate_eq_tooDeep_iff defined
  refine ⟨?_, ?_, ?_, ?_, ?_, ?_, ?_, ?_⟩
  · intro answer
    rw [answered, Scene.value_eq_told_iff]
    rfl
  · rw [unjudged, Scene.value_eq_told_iff]
    rfl
  · rw [exceeded]
    constructor
    · rintro failed ⟨verdict, depth, enough, yields⟩
      exact Scene.told_ne_tooDeep verdict ((yields.value_eq enough).symm.trans failed)
    · intro nothing
      rcases possible with ⟨verdict, given⟩ | failed
      · exact absurd ⟨verdict, Scene.yields_of_value given⟩ nothing
      · exact failed
  · exact evaluate_ne_noVerdict
  · intro token key issuer
    exact Token.verifies?_eq_none_iff
  · intro answer limit isOk enough
    rcases Scene.yields_of_value ((answered answer).mp isOk) with ⟨depth, within, yields⟩
    exact yields.value_eq (Nat.le_trans within enough)
  · exact evaluate_of_shallow sound defined
  · intro names nested length
    exact exceeded.mpr (Scene.tooDeep_of_nested sound knows nested length)

/-! A rule that asks itself again unless its input says `stop`. -/

def againBody : Expression := .any [.test (.nonEmpty (.input "stop")), .rule "again"]

def again : Module where
  package := "again"
  bindings := .empty
  rules := Register.empty.set "again" againBody

theorem again_sound : again.Sound := by
  rw [sound_iff_allDefined, ← looseReference?_eq_none_iff]
  cbv

theorem again_nested (count : Nat) (now : Seconds) :
    again.Nested
      (Scene.Opens { policy := again, input := .object [], verifies? := Token.verifies? now })
      againBody (List.replicate count "again") := by
  induction count with
  | zero => trivial
  | succ count induction =>
      refine ⟨?_, againBody, rfl, induction⟩
      apply Scene.Opens.anyLater (.test (Scene.judges_iff.mpr _)) (.anyHere (.rule "again"))
      cbv

theorem again_meets_semantics :
    again.evaluate (Token.verifies? 0) "again" (.object []) = .error (.tooDeep "again" 32) ∧
      again.evaluate (Token.verifies? 0) "again" (.object [("stop", .bool true)]) = .ok true := by
  constructor
  · have unstopped :=
      evaluate_meets_semantics again again_sound 0 "again" againBody rfl (.object [])
    exact unstopped.2.2.2.2.2.2.2 _ (again_nested 33 0) (by simp)
  · have stopped := evaluate_meets_semantics again again_sound 0 "again" againBody rfl
      (.object [("stop", .bool true)])
    refine (stopped.1 true).mpr ⟨0, by decide, .anyStop (by simp) (.test (Scene.judges_iff.mpr ?_))⟩
    cbv

end Module

end TokenAuthority.Policy
