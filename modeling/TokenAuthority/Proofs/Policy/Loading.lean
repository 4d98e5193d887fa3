import TokenAuthority.Proofs.Policy.Evaluation

/-!
# Loading modules

A text that spells a module loads if and only if the module is sound, and what loads needs no
further check: no evaluation meets a rule or a binding that is not there, unless the rule that is
asked for is itself unknown.
-/

namespace TokenAuthority.Policy

namespace Module

variable {policy : Module}

theorem parse_of_spelled {source : String} (spelled : spelled? source = some policy) :
    parse source = policy.checked := by
  simp [parse, spelled]

theorem Sound.binding (sound : policy.Sound) {name : String}
    (mentions : policy.Mentions (.binding name)) :
    ∃ value, policy.bindings.get? name = some value :=
  Option.isSome_iff_exists.mp (sound _ mentions)

theorem Sound.rule (sound : policy.Sound) {name : String}
    (mentions : policy.Mentions (.rule name)) :
    ∃ body, policy.rules.get? name = some body :=
  Option.isSome_iff_exists.mp (sound _ mentions)

variable {verifies? : (token key issuer : String) → Option Bool} {root : String} {input : Json}

theorem evaluate_error_cases (sound : policy.Sound) {body : Expression}
    (defined : policy.rules.get? root = some body) {fault : EvaluationError}
    (failed : policy.evaluate verifies? root input = .error fault) :
    fault = .tooDeep root maximumDepth ∨ fault = .noVerdict := by
  have possible : (∃ verdict, Scene.value { policy, input, verifies? } maximumDepth body =
        Scene.told verdict) ∨
      Scene.value { policy, input, verifies? } maximumDepth body = .error .tooDeep :=
    Scene.value_cases sound maximumDepth (sound.knows defined)
  rcases possible with ⟨verdict, given⟩ | exceeded
  · cases verdict with
    | none =>
        rw [(evaluate_eq_noVerdict_iff defined).mpr given] at failed
        cases failed
        exact .inr rfl
    | some answer =>
        rw [(evaluate_eq_ok_iff defined).mpr given] at failed
        cases failed
  · rw [(evaluate_eq_tooDeep_iff defined).mpr exceeded] at failed
    cases failed
    exact .inl rfl

theorem answer_or_obstacle (sound : policy.Sound) (known : policy.hasRule root = true)
    (now : Seconds) :
    (∃ answer, policy.evaluate (Token.verifies? now) root input = .ok answer) ∨
      policy.evaluate (Token.verifies? now) root input = .error (.tooDeep root 32) ∨
      policy.evaluate (Token.verifies? now) root input = .error .noVerdict ∧ now.toInt < 60 := by
  rcases Option.isSome_iff_exists.mp known with ⟨body, defined⟩
  cases result : policy.evaluate (Token.verifies? now) root input with
  | ok answer => exact .inl ⟨answer, rfl⟩
  | error fault =>
      rcases evaluate_error_cases sound defined result with rfl | rfl
      · exact .inr (.inl rfl)
      · refine .inr (.inr ⟨rfl, ?_⟩)
        exact Int.not_le.mp fun late => evaluate_ne_noVerdict late result

theorem evaluate_eq_unknownRule_iff (sound : policy.Sound) {package name : String} :
    policy.evaluate verifies? root input = .error (.unknownRule package name) ↔
      policy.hasRule root = false ∧ package = policy.package ∧ name = root := by
  cases defined : policy.rules.get? root with
  | none => simp [evaluate_of_undefined defined, hasRule, defined, eq_comm]
  | some body =>
      constructor
      · intro failed
        rcases evaluate_error_cases sound defined failed with impossible | impossible <;>
          cases impossible
      · rintro ⟨unknown, _, _⟩
        simp [hasRule, defined] at unknown

/-- A text that spells a module loads if and only if every reference in the module is defined, and a
failure names one that is not. In a module that loads only the rule asked for can be unknown, and
only the depth or a token that cannot be judged keeps a rule from having an answer. -/
theorem parse_exact (source : String) (policy : Module) (spelled : spelled? source = some policy) :
    (parse source = .ok policy ↔
        ∀ reference, policy.Mentions reference → policy.defines reference = true) ∧
      (∀ fault, parse source = .error fault → ∃ reference,
        fault = .undefined policy.package reference ∧ policy.Mentions reference ∧
          policy.defines reference = false) ∧
      ∀ accepted, parse source = .ok accepted → accepted = policy ∧
        ∀ (now : Seconds) (root : String) (input : Json),
          let scene : Scene := { policy, input, verifies? := Token.verifies? now }
          let result := policy.evaluate (Token.verifies? now) root input
          (∀ package name, result = .error (.unknownRule package name) ↔
              policy.hasRule root = false ∧ package = policy.package ∧ name = root) ∧
            (∀ name, policy.Mentions (.rule name) → ∃ body, policy.rules.get? name = some body) ∧
            (∀ outer body depth name, policy.rules.get? outer = some body →
              scene.value depth body ≠ .error (.unknownRule name)) ∧
            (∀ name, policy.Mentions (.binding name) →
              ∃ value, scene.resolve? (.binding name) = some value) ∧
            (∀ fault, result = .error fault →
              fault = .unknownRule policy.package root ∨ fault = .tooDeep root 32 ∨
                fault = .noVerdict) ∧
            (result = .error .noVerdict ↔ ∃ body, policy.rules.get? root = some body ∧
              ∃ depth ≤ 32, scene.Yields body none depth) ∧
            (60 ≤ now.toInt → result ≠ .error .noVerdict) := by
  rw [parse_of_spelled spelled]
  refine ⟨?_, ?_, ?_⟩
  · rw [checked_eq_ok_iff]
    exact ⟨fun accepted => accepted.2, fun sound => ⟨rfl, sound⟩⟩
  · intro fault failed
    exact checked_eq_error failed
  · intro accepted loads
    rcases checked_eq_ok_iff.mp loads with ⟨same, sound⟩
    refine ⟨same, ?_⟩
    intro now root input scene result
    refine ⟨?_, ?_, ?_, ?_, ?_, ?_, ?_⟩
    · intro package name
      exact evaluate_eq_unknownRule_iff sound
    · intro name mentions
      exact sound.rule mentions
    · intro outer body depth name defined
      exact Scene.value_ne_unknownRule sound (sound.knows defined) name
    · intro name mentions
      exact sound.binding mentions
    · intro fault failed
      cases defined : policy.rules.get? root with
      | none =>
          simp only [result, evaluate_of_undefined defined] at failed
          cases failed
          exact .inl rfl
      | some body => exact .inr (evaluate_error_cases sound defined failed)
    · constructor
      · intro unjudged
        cases defined : policy.rules.get? root with
        | none => exact absurd unjudged (by simp [result, evaluate_of_undefined defined])
        | some body =>
            have untold := (evaluate_eq_noVerdict_iff defined).mp unjudged
            exact ⟨body, rfl, Scene.yields_of_value untold⟩
      · rintro ⟨body, defined, depth, enough, yields⟩
        exact (evaluate_eq_noVerdict_iff defined).mpr (yields.value_eq enough)
    · exact evaluate_ne_noVerdict

def unbound : Module where
  package := "unbound"
  bindings := .empty
  rules := Register.empty.set "rule"
    (.all [.constant false, .not (.test (.nonEmpty (.binding "name")))])

def unboundSource : String :=
  "\x7b\"package\":\"unbound\",\"rules\":\x7b\"rule\":\x7b\"all\":[\x7b\"const\":false\x7d," ++
  "\x7b\"not\":\x7b\"non_empty\":\x7b\"var\":\"name\"\x7d\x7d\x7d]\x7d\x7d\x7d"

set_option maxRecDepth 4000 in
theorem unbound_is_not_loaded :
    spelled? unboundSource = some unbound ∧ parse unboundSource ≠ .ok unbound := by
  have spelled : spelled? unboundSource = some unbound := by cbv
  refine ⟨spelled, ?_⟩
  intro loads
  have mentions : unbound.Mentions (.binding "name") :=
    ⟨_, List.mem_cons_self, .all (by simp) (.not (.binding (.nonEmpty _)))⟩
  have impossible := (parse_exact unboundSource unbound spelled).1.mp loads _ mentions
  cases impossible

end Module

end TokenAuthority.Policy
