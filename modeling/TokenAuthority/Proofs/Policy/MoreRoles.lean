import Mathlib
import TokenAuthority.Proofs.Json.Agreement
import TokenAuthority.Proofs.Policy.Evaluation
import TokenAuthority.Proofs.Token.Authentication

/-!
# More roles

Where a rule negates nothing and asks roles only whether something is among them, more roles never
turn a yes into a no. They may turn it into no answer: a larger set of roles can lead evaluation
past other items, to references that go too deep or to a token that cannot be judged.
-/

namespace TokenAuthority.Policy

open Json (agrees_symm agrees_trans)

/-! ## Inputs -/

/-- Inputs that are alike but for their roles, where each role of the first has one that says the
same in the second. -/
inductive MoreRoles : (fewer more : Json) → Prop
  | mk {left right : List (String × Json)} {few many : List Json}
      (fewer : Entries.get? "roles" left = some (.array few))
      (more : Entries.get? "roles" right = some (.array many))
      (alike : ∀ name, name ≠ "roles" → Entries.get? name left = Entries.get? name right)
      (kept : ∀ role ∈ few, ∃ other ∈ many, role.agrees other = true) :
      MoreRoles (.object left) (.object right)

/-! ## Rules that favor roles -/

namespace Operand

def roles : Operand :=
  .input "roles"

/-- Roles have no part in the operand: a path leads elsewhere from its first segment on. -/
def IsFixed : Operand → Prop
  | .input path => path ≠ "" ∧ (Text.segments '.' path.toList).head? ≠ some "roles".toList
  | .binding _ | .literal _ => True

instance : (operand : Operand) → Decidable operand.IsFixed
  | .input path =>
      inferInstanceAs (Decidable (path ≠ "" ∧ (Text.segments '.' path.toList).head? ≠ _))
  | .binding _ | .literal _ => inferInstanceAs (Decidable True)

end Operand

def Predicate.FavorsRoles : Predicate → Prop
  | .equal left right => left.IsFixed ∧ right.IsFixed
  | .nonEmpty operand => operand = .roles ∨ operand.IsFixed
  | .contains collection value => (collection = .roles ∨ collection.IsFixed) ∧ value.IsFixed
  | .intersects collection values =>
      (collection = .roles ∨ collection.IsFixed) ∧ (values = .roles ∨ values.IsFixed)
  | .verifies token key issuer => token.IsFixed ∧ key.IsFixed ∧ issuer.IsFixed

/-- By itself, without what it leads to, the expression favors roles. -/
def Expression.FavorsRoles : Expression → Prop
  | .not _ => False
  | .test predicate => predicate.FavorsRoles
  | .constant _ | .all _ | .any _ | .rule _ => True

namespace Module

def FavorsRoles (policy : Module) (start : Expression) : Prop :=
  ∀ reached, policy.Reaches start reached → reached.FavorsRoles

variable {policy : Module}

theorem FavorsRoles.child {expression child : Expression} (favors : policy.FavorsRoles expression)
    (member : child ∈ expression.children) : policy.FavorsRoles child :=
  fun reached reaches => favors reached (.child member reaches)

theorem FavorsRoles.rule {name : String} {body : Expression}
    (favors : policy.FavorsRoles (.rule name)) (defined : policy.rules.get? name = some body) :
    policy.FavorsRoles body :=
  fun reached reaches => favors reached (.rule defined reaches)

theorem FavorsRoles.all_rest {item : Expression} {rest : List Expression}
    (favors : policy.FavorsRoles (.all (item :: rest))) : policy.FavorsRoles (.all rest) := by
  intro reached reaches
  cases reaches with
  | here => trivial
  | child member reaches => exact favors reached (.child (List.mem_cons_of_mem item member) reaches)

theorem FavorsRoles.any_rest {item : Expression} {rest : List Expression}
    (favors : policy.FavorsRoles (.any (item :: rest))) : policy.FavorsRoles (.any rest) := by
  intro reached reaches
  cases reaches with
  | here => trivial
  | child member reaches => exact favors reached (.child (List.mem_cons_of_mem item member) reaches)

theorem favorsRoles_of_closed {known : List Expression}
    (favor : ∀ expression ∈ known, expression.FavorsRoles)
    (children : ∀ expression ∈ known, ∀ child ∈ expression.children, child ∈ known)
    (bodies : ∀ name body, .rule name ∈ known → policy.rules.get? name = some body → body ∈ known)
    {start : Expression} (member : start ∈ known) : policy.FavorsRoles start :=
  fun reached reaches => favor reached (reaches.mem_of_closed children bodies member)

end Module

/-! ## Operands -/

section Scenes

variable {policy : Module} {verifies? : (token key issuer : String) → Option Bool}
  {fewer more : Json}

theorem lookup?_roles (members : List (String × Json)) :
    lookup? (.object members) "roles" = Entries.get? "roles" members := by
  have cut : Text.segments '.' "roles".toList = ["roles".toList] := by decide
  have nonempty : "roles".isEmpty = false := by decide
  rw [lookup?, nonempty, cut, walk?, step?, String.ofList_toList]
  simp [walk?]

theorem MoreRoles.lookup?_eq (grows : MoreRoles fewer more) {path : String}
    (fixed : (Operand.input path).IsFixed) : lookup? fewer path = lookup? more path := by
  rcases grows with ⟨_, _, alike, _⟩
  rcases fixed with ⟨nonempty, elsewhere⟩
  have notEmpty : path.isEmpty = false := by simpa using nonempty
  simp only [lookup?, notEmpty, Bool.false_eq_true, if_false]
  cases cut : Text.segments '.' path.toList with
  | nil => exact absurd cut (Text.segments_ne_nil _ _)
  | cons first rest =>
      have differ : String.ofList first ≠ "roles" := by
        intro same
        apply elsewhere
        rw [cut, ← same, String.toList_ofList, List.head?_cons]
      simp only [walk?, step?, alike _ differ]

namespace Scene

theorem resolve?_of_fixed (grows : MoreRoles fewer more) {operand : Operand}
    (fixed : operand.IsFixed) :
    resolve? { policy, input := fewer, verifies? } operand =
      resolve? { policy, input := more, verifies? } operand := by
  cases operand with
  | input path => exact grows.lookup?_eq fixed
  | binding name => rfl
  | literal value => rfl

theorem resolve?_array (grows : MoreRoles fewer more) {operand : Operand}
    (listed : operand = .roles ∨ operand.IsFixed) {items : List Json}
    (found : resolve? { policy, input := fewer, verifies? } operand = some (.array items)) :
    ∃ others, resolve? { policy, input := more, verifies? } operand = some (.array others) ∧
      ∀ item ∈ items, ∃ other ∈ others, item.agrees other = true := by
  rcases listed with rfl | fixed
  · rcases grows with ⟨few, many, _, kept⟩
    simp only [resolve?, Operand.roles, lookup?_roles] at found ⊢
    rw [few] at found
    cases found
    exact ⟨_, many, kept⟩
  · rw [resolve?_of_fixed grows fixed] at found
    exact ⟨items, found, fun item member => ⟨item, member, decide_eq_true rfl⟩⟩

theorem resolve?_nonEmpty (grows : MoreRoles fewer more) {operand : Operand}
    (listed : operand = .roles ∨ operand.IsFixed) {value : Json}
    (found : resolve? { policy, input := fewer, verifies? } operand = some value)
    (filled : isNonEmpty value = true) :
    ∃ other, resolve? { policy, input := more, verifies? } operand = some other ∧
      isNonEmpty other = true := by
  rcases listed with rfl | fixed
  · rcases grows with ⟨few, many, _, kept⟩
    simp only [resolve?, Operand.roles, lookup?_roles] at found ⊢
    rw [few] at found
    cases found
    refine ⟨_, many, ?_⟩
    rcases List.exists_mem_of_ne_nil _ (by simpa [isNonEmpty] using filled) with ⟨role, isRole⟩
    rcases kept role isRole with ⟨other, isOther, _⟩
    simpa [isNonEmpty] using List.ne_nil_of_mem isOther
  · rw [resolve?_of_fixed grows fixed] at found
    exact ⟨value, found, filled⟩

/-! ## Predicates -/

theorem Holds.of_moreRoles (grows : MoreRoles fewer more) {predicate : Predicate}
    (favors : predicate.FavorsRoles)
    (holds : Holds { policy, input := fewer, verifies? } predicate) :
    Holds { policy, input := more, verifies? } predicate := by
  have same {operand : Operand} (fixed : operand.IsFixed) :
      resolve? { policy, input := fewer, verifies? } operand =
        resolve? { policy, input := more, verifies? } operand :=
    resolve?_of_fixed grows fixed
  cases predicate with
  | equal left right =>
      rcases holds with ⟨first, second, isFirst, isSecond, agree⟩
      exact ⟨first, second, same favors.1 ▸ isFirst, same favors.2 ▸ isSecond, agree⟩
  | nonEmpty operand =>
      rcases holds with ⟨value, found, filled⟩
      exact resolve?_nonEmpty grows favors found filled
  | contains collection value =>
      rcases holds with ⟨items, element, areItems, isElement, item, member, agree⟩
      rcases resolve?_array grows favors.1 areItems with ⟨others, areOthers, kept⟩
      rcases kept item member with ⟨other, isOther, alike⟩
      exact ⟨others, element, areOthers, same favors.2 ▸ isElement, other, isOther,
        agrees_trans agree alike⟩
  | intersects collection values =>
      rcases holds with ⟨items, elements, areItems, areElements, element, isElement, item, isItem,
        agree⟩
      rcases resolve?_array grows favors.1 areItems with ⟨others, areOthers, kept⟩
      rcases resolve?_array grows favors.2 areElements with ⟨wanted, areWanted, keptWanted⟩
      rcases kept item isItem with ⟨other, isOther, alike⟩
      rcases keptWanted element isElement with ⟨want, isWanted, likewise⟩
      refine ⟨others, wanted, areOthers, areWanted, want, isWanted, other, isOther, ?_⟩
      exact agrees_trans (agrees_symm likewise) (agrees_trans agree alike)
  | verifies token key issuer =>
      rcases holds with ⟨signed, armored, name, isSigned, isArmored, isName, verified⟩
      exact ⟨signed, armored, name, same favors.1 ▸ isSigned, same favors.2.1 ▸ isArmored,
        same favors.2.2 ▸ isName, verified⟩

/-! ## Expressions -/

/-- What favors roles and is true has no other answer with more of them. The second run may take
other items on its way, so nothing is said of what it needs. -/
theorem Yields.of_moreRoles (grows : MoreRoles fewer more) {expression : Expression}
    {verdict : Option Bool} {depth : Nat} (favors : policy.FavorsRoles expression)
    (first : Yields { policy, input := fewer, verifies? } expression verdict depth)
    (isTrue : verdict = some true) {answer : Bool} {needed : Nat}
    (second : Yields { policy, input := more, verifies? } expression (some answer) needed) :
    answer = true := by
  induction first generalizing answer needed with
  | constant value =>
      cases isTrue
      cases second
      rfl
  | test judges =>
      subst isTrue
      cases second with
      | test judgesMore =>
          have holds := Holds.of_moreRoles grows (favors _ (.here _)) judges
          cases answer with
          | true => rfl
          | false => exact absurd holds judgesMore.1
  | not => exact absurd (favors _ (.here _)) id
  | rule defined yields induction =>
      cases second with
      | rule again yieldsMore =>
          rw [defined] at again
          cases again
          exact induction (favors.rule defined) isTrue yieldsMore
  | allDone =>
      cases second
      rfl
  | allStop settles => exact absurd isTrue settles
  | allNext firstItem others firstInduction othersInduction =>
      have itemFavors := favors.child List.mem_cons_self
      cases second with
      | allStop settles yieldsMore =>
          cases firstInduction itemFavors rfl yieldsMore
          exact absurd rfl settles
      | allNext _ othersMore => exact othersInduction favors.all_rest isTrue othersMore
  | anyDone => cases isTrue
  | anyStop settles yields induction =>
      have itemFavors := favors.child List.mem_cons_self
      cases second with
      | anyStop _ yieldsMore => exact induction itemFavors isTrue yieldsMore
      | anyNext itemMore _ => cases induction itemFavors isTrue itemMore
  | anyNext firstItem others _ othersInduction =>
      cases second with
      -- What was false with fewer roles may be true now, and settles the matter the same way.
      | anyStop settles _ =>
          cases answer with
          | true => rfl
          | false => exact absurd rfl settles
      | anyNext _ othersMore => exact othersInduction favors.any_rest isTrue othersMore

end Scene

end Scenes

/-! ## Rules -/

namespace Module

theorem exists_yields_of_evaluate {policy : Module}
    {verifies? : (token key issuer : String) → Option Bool} {root : String} {input : Json}
    {body : Expression} (defined : policy.rules.get? root = some body) {answer : Bool}
    (isOk : policy.evaluate verifies? root input = .ok answer) :
    ∃ needed, Scene.Yields { policy, input, verifies? } body (some answer) needed := by
  have given : Scene.value { policy, input, verifies? } maximumDepth body =
      Scene.told (some answer) := (evaluate_eq_ok_iff defined).mp isOk
  rcases Scene.yields_of_value given with ⟨needed, _, yields⟩
  exact ⟨needed, yields⟩

/-- Of a rule from which nothing is reached that negates or asks roles otherwise than what is among
them, a yes stays a yes when there are more roles, as long as there is an answer. In a sound module
in which no chain of references from the rule is longer than 32 there is one, unless a token is to
be judged by a clock that shows less than a minute. -/
theorem more_roles_keep_access (policy : Module) (root : String)
    (favors : policy.FavorsRoles (.rule root)) (now : Seconds) (fewer more : Json)
    (grows : MoreRoles fewer more)
    (granted : policy.evaluate (Token.verifies? now) root fewer = .ok true) :
    let result := policy.evaluate (Token.verifies? now) root more
    (∀ answer, result = .ok answer → answer = true) ∧
      (policy.Sound →
        (∀ body names, policy.rules.get? root = some body → policy.Chain body names →
          names.length ≤ 32) →
        result = .ok true ∨ result = .error .noVerdict ∧ now.toInt < 60) := by
  intro result
  cases defined : policy.rules.get? root with
  | none =>
      rw [evaluate_of_undefined defined] at granted
      cases granted
  | some body =>
      have keeps : ∀ answer, result = .ok answer → answer = true := by
        intro answer isOk
        rcases exists_yields_of_evaluate defined granted with ⟨_, first⟩
        rcases exists_yields_of_evaluate defined isOk with ⟨_, second⟩
        exact first.of_moreRoles grows (favors.rule defined) rfl second
      refine ⟨keeps, ?_⟩
      intro sound shallow
      rcases evaluate_of_shallow sound defined fun names => shallow body names rfl with
        ⟨answer, isOk⟩ | unjudged
      · cases keeps answer isOk
        exact .inl isOk
      · by_cases late : 60 ≤ now.toInt
        · exact absurd unjudged (evaluate_ne_noVerdict late)
        · exact .inr ⟨unjudged, Int.not_le.mp late⟩

/-! A rule that lets everybody visit, but looks at the tokens of staff first. -/

def staffTest : Predicate :=
  .contains .roles (.literal (.string "STAFF"))

def tokenTest : Predicate :=
  .verifies (.input "token") (.input "key") (.input "issuer")

def visitBody : Expression :=
  .any [.all [.rule "staff", .test tokenTest], .constant true]

def visiting : Module where
  package := "visiting"
  bindings := .empty
  rules := (Register.empty.set "staff" (.test staffTest)).set "visit" visitBody

def visitInput (roles : List Json) (token key : String) : Json :=
  .object [("roles", .array roles), ("token", .string token), ("key", .string key),
    ("issuer", .string "issuer")]

theorem moreRoles_visitInput (role : Json) (token key : String) :
    MoreRoles (visitInput [] token key) (visitInput [role] token key) := by
  apply MoreRoles.mk rfl rfl
  · intro name other
    simp only [Entries.get?, if_neg (Ne.symm other)]
  · intro role absent
    cases absent

theorem visiting_sound : visiting.Sound := by
  rw [sound_iff_allDefined, ← looseReference?_eq_none_iff]
  cbv

theorem visiting_favorsRoles : visiting.FavorsRoles (.rule "visit") := by
  apply @favorsRoles_of_closed _ [.rule "visit", visitBody, .all [.rule "staff", .test tokenTest],
    .rule "staff", .test tokenTest, .constant true, .test staffTest]
  · have tests : tokenTest.FavorsRoles ∧ staffTest.FavorsRoles := by
      simp only [Predicate.FavorsRoles, tokenTest, staffTest]
      decide
    simp [Expression.FavorsRoles, visitBody, tests]
  · simp [Expression.children, visitBody]
  · intro name body member defined
    have named : name = "visit" ∨ name = "staff" := by simpa [visitBody] using member
    rcases named with rfl | rfl
    · cases defined
      simp
    · cases defined
      simp
  · exact List.mem_cons_self

theorem staffTest_mentions (name : String) :
    ¬(Expression.test staffTest).Mentions (.rule name) := by
  rintro ⟨⟩

theorem visitBody_mentions {name : String} (mentions : visitBody.Mentions (.rule name)) :
    name = "staff" := by
  cases mentions with
  | any member mentions =>
      rcases List.mem_pair.mp member with rfl | rfl
      · cases mentions with
        | all member mentions =>
            rcases List.mem_pair.mp member with rfl | rfl
            · cases mentions
              rfl
            · cases mentions
      · cases mentions

theorem visiting_shallow {names : List String} (chain : visiting.Chain visitBody names) :
    names.length ≤ 1 := by
  match names, chain with
  | [], _ => exact Nat.zero_le 1
  | [_], _ => exact Nat.le_refl 1
  | _ :: _ :: _, ⟨visits, _, defined, mentions, _⟩ =>
      cases visitBody_mentions visits
      cases defined
      exact absurd mentions (staffTest_mentions _)

section Visitors

variable (verifies? : (token key issuer : String) → Option Bool) (token key : String)

theorem tokenTest_visitInput (roles : List Json) :
    Scene.holds? { policy := visiting, input := visitInput roles token key, verifies? } tokenTest =
      verifies? token key "issuer" := by
  cbv

theorem visiting_admits_others :
    visiting.evaluate verifies? "visit" (visitInput [] token key) = .ok true := by
  have others : Scene.holds?
      { policy := visiting, input := visitInput [] token key, verifies? } staffTest =
        some false := by cbv
  apply (@evaluate_eq_ok_iff visiting _ "visit" _ visitBody rfl true).mpr
  exact Scene.Yields.value_eq
    (.anyNext (.allStop (by simp) (.rule rfl (.test (Scene.judges_iff.mpr others))))
      (.anyStop (by simp) (.constant true)))
    (by decide)

theorem visiting_gives_up (untold : verifies? token key "issuer" = none) :
    visiting.evaluate verifies? "visit" (visitInput [.string "STAFF"] token key) =
      .error .noVerdict := by
  have staff : Scene.holds?
      { policy := visiting, input := visitInput [.string "STAFF"] token key, verifies? } staffTest =
        some true := by cbv
  have unjudged := (tokenTest_visitInput verifies? token key [.string "STAFF"]).trans untold
  apply (@evaluate_eq_noVerdict_iff visiting _ "visit" _ visitBody rfl).mpr
  exact Scene.Yields.value_eq
    (.anyStop (by simp) (.allNext (.rule rfl (.test (Scene.judges_iff.mpr staff)))
      (.allStop (by simp) (.test (Scene.judges_iff.mpr unjudged)))))
    (by decide)

end Visitors

theorem visiting_admits_staff :
    let token := Token.Engine.tokenWith "key" Token.Engine.sampleClaims Crypto.Rsa.sampleKey
    let key := Token.Engine.samplePublicArmor.write
    let staff := visitInput [.string "STAFF"] token key
    visiting.evaluate (Token.verifies? 150) "visit" staff = .ok true ∧
      visiting.evaluate (Token.verifies? 0) "visit" staff = .error .noVerdict := by
  intro token key staff
  have shallow : ∀ body names, visiting.rules.get? "visit" = some body →
      visiting.Chain body names → names.length ≤ 32 := by
    intro body names defined chain
    cases defined
    exact Nat.le_trans (visiting_shallow chain) (by decide)
  constructor
  · rcases (more_roles_keep_access visiting "visit" visiting_favorsRoles 150 _ staff
      (moreRoles_visitInput _ token key) (visiting_admits_others _ token key)).2 visiting_sound
      shallow with isOk | ⟨_, early⟩
    · exact isOk
    · exact absurd early (by decide)
  · apply visiting_gives_up
    apply Token.verifies?_eq_none_iff.mpr
    have starts : ∀ start, Token.Engine.sampleClaims.notBefore = some start → 0 ≤ start.toInt := by
      intro start isStart
      rw [Token.Engine.started_sampleClaims start isStart]
      decide
    rw [Token.Engine.signedAssertion?_tokenWith Token.Engine.publicKey?_samplePublicArmor
      Token.Engine.verify_sampleKey (by decide) starts]
    exact ⟨by decide, rfl⟩

end Module

end TokenAuthority.Policy
