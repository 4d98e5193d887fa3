import Mathlib
import TokenAuthority.Policy.PolicySet
import TokenAuthority.Proofs.Policy.References
import TokenAuthority.Token.Engine

/-!
# The built-in authentication module

It loads, and its one rule says of a token what its verification under the key and the issuer says.
-/

namespace TokenAuthority.Policy

/-! ## Modules that are written out -/

theorem toList_literal {text : String} {chars : List Char} (literal : text = String.ofList chars) :
    text.toList = chars := by
  rw [literal, String.toList_ofList]

theorem toList_append {left right : String} {front back : List Char} (first : left.toList = front)
    (second : right.toList = back) : (left ++ right).toList = front ++ back := by
  rw [String.toList_append, first, second]

theorem Module.spelled?_eq_some {source : String} {chars : List Char} {policy : Module}
    (written : source.toList = chars)
    (means : (Json.Document.read? (chars.map .char)).bind Module.ofDocument? = some policy) :
    Module.spelled? source = some policy := by
  rw [Module.spelled?, Text.Glyph.ofString, written, means]

/-! ## The module -/

def authentication : Module where
  package := "gatekeeper.authentication"
  bindings := .empty
  rules := Register.empty.set Token.Engine.authenticateRule
    (.test (.verifies (.input "token") (.input "key") (.input "issuer")))

set_option maxRecDepth 4000 in
theorem spelled_authentication : Module.spelled? authenticationSource = some authentication := by
  apply Module.spelled?_eq_some
  · iterate 2
      apply toList_append
      case second => exact toList_literal rfl
    exact toList_literal rfl
  · cbv

theorem parse_authentication : Module.parse authenticationSource = .ok authentication := by
  have checked : authentication.checked = .ok authentication := by
    rw [Module.checked_eq_ok_iff, Module.sound_iff_allDefined, ← Module.looseReference?_eq_none_iff]
    refine ⟨rfl, ?_⟩
    cbv
  rw [Module.parse, spelled_authentication]
  exact checked

theorem lookup?_authenticationInput (token key issuer : String) :
    let input := Token.Engine.authenticationInput token key issuer
    lookup? input "token" = some (.string token) ∧ lookup? input "key" = some (.string key) ∧
      lookup? input "issuer" = some (.string issuer) := by
  refine ⟨?_, ?_, ?_⟩
  · cbv
  · cbv
  · cbv

theorem evaluate_authentication (verifies? : (token key issuer : String) → Option Bool)
    (token key issuer : String) :
    authentication.evaluate verifies? Token.Engine.authenticateRule
        (Token.Engine.authenticationInput token key issuer) =
      (verifies? token key issuer).elim (.error .noVerdict) .ok := by
  rcases lookup?_authenticationInput token key issuer with ⟨isToken, isKey, isIssuer⟩
  have defined : authentication.rules.get? Token.Engine.authenticateRule =
      some (.test (.verifies (.input "token") (.input "key") (.input "issuer"))) := by
    cbv
  simp only [Module.evaluate, defined, Scene.value, Expression.meaning, Scene.holds?,
    Scene.resolve?, isToken, isKey, isIssuer]
  cases verifies? token key issuer <;> rfl

end TokenAuthority.Policy
