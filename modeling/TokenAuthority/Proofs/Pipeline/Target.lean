import TokenAuthority.Proofs.Http.Pattern
import TokenAuthority.Proofs.Pipeline.AtHand

/-!
# Whom a request acts on

A guarded route permits a request for one user: the one that its path names, if it names one. Where
the path has no place for a name, this is the caller; but so it is where a value of the path is no
text, whatever the other values say.
-/

namespace TokenAuthority.Pipeline

open Http.Pattern (Capture AllTexts textOf? lastValue? parameters? fillParts)

/-- Whom a request acts on, by what stands for the names of its pattern. -/
inductive ActsOn (pattern : Http.Pattern) (capture : Capture) (caller : Identity) : Uuid → Prop
  /-- The value of the name spells an id. -/
  | named {value : List Char} {text : String} {target : Uuid} (texts : AllTexts capture)
      (held : lastValue? targetParameter capture = some value) (spells : textOf? value = some text)
      (isId : Uuid.parse? text = some target) : ActsOn pattern capture caller target
  /-- The pattern has no such name. -/
  | unnamed (absent : targetParameter ∉ pattern.names) : ActsOn pattern capture caller caller.userId
  /-- Some value, of this name or of another, spells no text. -/
  | garbled (broken : ¬ AllTexts capture) : ActsOn pattern capture caller caller.userId

variable {pattern : Http.Pattern} {capture : Capture} {context : Context} {caller : Identity}
  {target : Uuid}

/-! ## Parameters of a context -/

theorem parameter?_of_broken (known : context.parameters = parameters? capture)
    (broken : ¬ AllTexts capture) (name : String) : context.parameter? name = none := by
  have nothing : parameters? capture = none := by
    rw [← Option.not_isSome_iff_eq_none, Http.Pattern.isSome_parameters?_iff]
    exact broken
  rw [Context.parameter?, known, nothing, Option.bind_none]

theorem parameter?_of_texts (known : context.parameters = parameters? capture)
    (texts : AllTexts capture) (name : String) :
    context.parameter? name = (lastValue? name capture).bind textOf? := by
  rcases Option.isSome_iff_exists.mp (Http.Pattern.isSome_parameters?_iff.mpr texts) with
    ⟨parameters, areParameters⟩
  rw [Context.parameter?, known, areParameters, Option.bind_some,
    Http.Pattern.lookup_parameters? areParameters]

theorem lastValue?_of_absent {name : String} (absent : name ∉ capture.map (·.1)) :
    lastValue? name capture = none := by
  rw [← Option.not_isSome_iff_eq_none, Http.Pattern.isSome_lastValue?_iff]
  exact absent

/-! ## Targets -/

theorem targetOf_of_nothing (nothing : context.parameter? targetParameter = none) :
    targetOf context caller = .ok caller.userId := by
  rw [targetOf, nothing]

theorem targetOf_of_text {text : String} (named : context.parameter? targetParameter = some text) :
    targetOf context caller = .ok target ↔ Uuid.parse? text = some target := by
  simp only [targetOf, named]
  cases Uuid.parse? text <;> simp

theorem targetOf_eq_ok_iff (known : context.parameters = parameters? capture)
    (shape : capture.map (·.1) = pattern.names) :
    targetOf context caller = .ok target ↔ ActsOn pattern capture caller target := by
  constructor
  · intro isTarget
    -- One value that is no text hides all others, so this is asked before any value is looked at.
    by_cases texts : AllTexts capture
    · have parameter := parameter?_of_texts known texts targetParameter
      cases held : lastValue? targetParameter capture with
      | none =>
          rw [targetOf_of_nothing (by rw [parameter, held, Option.bind_none])] at isTarget
          cases isTarget
          apply ActsOn.unnamed
          rw [← shape, ← Http.Pattern.isSome_lastValue?_iff, held]
          exact Bool.false_ne_true
      | some value =>
          rcases Option.isSome_iff_exists.mp (texts _ (Http.Pattern.mem_of_lastValue? held)) with
            ⟨text, spells⟩
          rw [held, Option.bind_some, spells] at parameter
          exact .named texts held spells ((targetOf_of_text parameter).mp isTarget)
    · rw [targetOf_of_nothing (parameter?_of_broken known texts _)] at isTarget
      cases isTarget
      exact .garbled texts
  · rintro (⟨texts, held, spells, isId⟩ | absent | broken)
    · apply (targetOf_of_text _).mpr isId
      rw [parameter?_of_texts known texts, held, Option.bind_some, spells]
    · apply targetOf_of_nothing
      rw [← shape] at absent
      by_cases texts : AllTexts capture
      · rw [parameter?_of_texts known texts, lastValue?_of_absent absent, Option.bind_none]
      · exact parameter?_of_broken known texts _
    · exact targetOf_of_nothing (parameter?_of_broken known broken _)

theorem not_actsOn_of_noId (listed : targetParameter ∈ pattern.names) (texts : AllTexts capture)
    (noId : ∀ value text, lastValue? targetParameter capture = some value →
      textOf? value = some text → Uuid.parse? text = none) :
    ¬ ActsOn pattern capture caller target := by
  rintro (⟨_, held, spells, isId⟩ | absent | broken)
  · rw [noId _ _ held spells] at isId
    cases isId
  · exact absent listed
  · exact broken texts

/-! ## Guarded routes -/

variable {app : App} {table : StatusTable} {who whether : Authority} {rule : String}
  {request : Http.Request} {world : World}

theorem runs_serve_iff_actsOn (layered : app.layers = global table)
    (shape : capture.map (·.1) = pattern.names) {inner : Context} {held : State} :
    Runs (Authority.serve app who whether rule capture request world) inner held ↔
      ∃ context caller between target, app.context? capture request world = some context ∧
        who.identify context (enter context { world }) = (.ok caller, between) ∧
        ActsOn pattern capture caller target ∧
        whether.grant rule caller target context.deadline between = (.ok (), held) ∧
        inner = { context with identity := some caller } := by
  rw [Authority.runs_serve_iff layered]
  constructor
  · rintro ⟨context, caller, isContext, admitted, rfl⟩
    rcases Authority.letIn_eq_ok_iff.mp admitted with
      ⟨between, target, identified, isTarget, granted⟩
    have actsOn := (targetOf_eq_ok_iff (App.of_context? isContext).2.1 shape).mp isTarget
    exact ⟨context, caller, between, target, isContext, identified, actsOn, granted, rfl⟩
  · rintro ⟨context, caller, between, target, isContext, identified, actsOn, granted, rfl⟩
    have isTarget := (targetOf_eq_ok_iff (App.of_context? isContext).2.1 shape).mpr actsOn
    exact ⟨context, caller, isContext,
      Authority.letIn_eq_ok_iff.mpr ⟨between, target, identified, isTarget, granted⟩, rfl⟩

theorem ignores_of_noId (layered : app.layers = global table)
    (shape : capture.map (·.1) = pattern.names) (listed : targetParameter ∈ pattern.names)
    (texts : AllTexts capture)
    (noId : ∀ value text, lastValue? targetParameter capture = some value →
      textOf? value = some text → Uuid.parse? text = none) :
    Ignores (Authority.serve app who whether rule capture request world) := by
  apply Authority.ignores_of_not_runs layered
  intro inner held runs
  rcases (runs_serve_iff_actsOn layered shape).mp runs with ⟨_, _, _, _, _, _, actsOn, _⟩
  exact not_actsOn_of_noId listed texts noId actsOn

/-- On a route behind both guards the handler runs for a caller who is identified and is granted to
act on the user whom the path names. If the pattern has no place for that name the user is the
caller, and a text that is no id stops the request. A value of the path that is no text does not:
then too the user is the caller. -/
theorem handler_runs_for_target (app : App) (table : StatusTable)
    (layered : app.layers = global table) (who whether : Authority) (rule : String)
    (pattern : Http.Pattern) (request : Http.Request) (capture : Capture)
    (matched : pattern.capture? request.target.path = some capture) (world : World) :
    let served := Authority.serve app who whether rule capture request world
    (capture.map (·.1) = pattern.names ∧
      request.target.path.toList = fillParts pattern.parts capture) ∧
    (∀ inner held, Runs served inner held ↔
      ∃ context caller between target, app.context? capture request world = some context ∧
        who.identify context (enter context { world }) = (.ok caller, between) ∧
        ActsOn pattern capture caller target ∧
        whether.grant rule caller target context.deadline between = (.ok (), held) ∧
        inner = { context with identity := some caller }) ∧
    ((∃ inner held, Runs served inner held) ∨ Ignores served) ∧
    (targetParameter ∈ pattern.names → AllTexts capture →
      (∀ value text, lastValue? targetParameter capture = some value →
        textOf? value = some text → Uuid.parse? text = none) → Ignores served) := by
  have shape := Http.Pattern.of_capture?_eq_some matched
  exact ⟨shape, fun _ _ => runs_serve_iff_actsOn layered shape.1,
    Authority.runs_or_ignores layered, ignores_of_noId layered shape.1⟩

def samplePattern : Http.Pattern where
  parts := [.literal ['u', 's', 'e', 'r', 's'], .parameter targetParameter]

theorem sampleUser_runs_garbled :
    targetParameter ∈ samplePattern.names ∧
      ∃ inner held, inner.identity = some sampleUser ∧
        Runs (Authority.serve sampleApp (.atHand Token.Engine.builtinEngine)
          (.atHand Token.Engine.builtinEngine) "rule_admin_or_subject"
          [(targetParameter, ['%', 'f', 'f'])] (sampleRequest "/users/%ff") sampleWorld)
          inner held := by
  let capture : Capture := [(targetParameter, ['%', 'f', 'f'])]
  let context := sampleContext "/users/%ff" capture
  let entered := enter context { world := sampleWorld }
  have broken : ¬ AllTexts capture := by
    rw [← Http.Pattern.isSome_parameters?_iff]
    decide +kernel
  have isTarget : targetOf context sampleUser = .ok Token.Engine.userId :=
    targetOf_of_nothing (parameter?_of_broken rfl broken _)
  rcases Authority.letIn_eq_ok_iff.mp
      (letIn_eq_ok_iff_admits.mpr ⟨_, _, _, admits_sampleUser isTarget, rfl⟩) with
    ⟨between, target, identified, sameTarget, granted⟩
  rw [isTarget] at sameTarget
  cases sameTarget
  refine ⟨by decide, { context with identity := some sampleUser }, entered.pass 0, rfl, ?_⟩
  exact ((handler_runs_for_target sampleApp {} rfl _ _ "rule_admin_or_subject" samplePattern
    (sampleRequest "/users/%ff") capture (by decide +kernel) sampleWorld).2.1 _ _).mpr
    ⟨context, sampleUser, between, _, rfl, identified, .garbled broken, granted, rfl⟩

end TokenAuthority.Pipeline
