import TokenAuthority.Proofs.Text.Decimal
import TokenAuthority.Proofs.Token.Parts
import TokenAuthority.Settings

/-!
# Settings that are accepted

A time is accepted if it is a number of seconds that fits into a word, and the time for a request
only if it is not zero. No other variable has a say in it.
-/

namespace TokenAuthority

/-! ## Numbers have no blanks -/

namespace Text

theorem isBlank_of_isDigit {value : Char} (digit : isDigit value = true) :
    isBlank value = false := by
  have all : ∀ code < 58, isDigit (Char.ofNat code) = true → isBlank (Char.ofNat code) = false := by
    decide +kernel
  have small : value.toNat < 58 := by
    rw [isDigit, Bool.and_eq_true, decide_eq_true_eq, decide_eq_true_eq] at digit
    omega
  rw [← Char.ofNat_toNat value] at digit ⊢
  exact all value.toNat small digit

theorem isBlank_of_mem_repr {number : Nat} :
    ∀ value ∈ (Nat.repr number).toList, isBlank value = false := by
  intro value member
  rw [Nat.toList_repr] at member
  exact isBlank_of_isDigit (isDigit_of_mem_toDigits member)

theorem isBlankText_repr (number : Nat) : isBlankText (Nat.repr number) = false := by
  rcases List.exists_mem_of_ne_nil (Nat.repr number).toList
    (by rw [Nat.toList_repr]; exact Nat.toDigits_ne_nil) with ⟨value, member⟩
  rw [isBlankText, List.all_eq_false]
  exact ⟨value, member, by simp [isBlank_of_mem_repr value member]⟩

end Text

namespace Settings

variable {source : String → Option String} {settings : Settings} {which : Variable}
  {limit unset number : Nat}

/-! ## What is read -/

theorem lt_of_number (small : unset < limit)
    (read : Settings.number source which limit unset = .ok number) : number < limit := by
  unfold Settings.number at read
  split at read
  · cases read
    exact small
  · split at read
    · rename_i value isNumber
      cases read
      simp only [Text.decimal?, Option.filter_eq_some_iff, decide_eq_true_eq] at isNumber
      exact isNumber.2
    · cases read

theorem requestSeconds_eq_ok_iff :
    requestSeconds source = .ok number ↔
      Settings.number source .requestTimeout Word.size64 10 = .ok number ∧ 0 < number := by
  cases read : Settings.number source .requestTimeout Word.size64 10 with
  | error fault => simp [requestSeconds, read, bind, Except.bind]
  | ok seconds =>
      simp only [requestSeconds, read, bind, Except.bind, Except.ok.injEq]
      split
      · rename_i zero
        subst zero
        constructor
        · intro impossible
          cases impossible
        · rintro ⟨rfl, positive⟩
          exact absurd positive (Nat.lt_irrefl 0)
      · rename_i other
        constructor
        · rintro ⟨rfl⟩
          exact ⟨rfl, Nat.pos_of_ne_zero other⟩
        · rintro ⟨rfl, _⟩
          rfl

theorem times_of_ofSource (accepted : ofSource source = .ok settings) :
    Settings.number source .shutdownTimeout Word.size64 20 = .ok settings.shutdownTimeout ∧
      requestSeconds source = .ok settings.requestTimeout := by
  unfold ofSource at accepted
  simp only [bind, Except.bind, pure, Except.pure] at accepted
  split at accepted
  · cases accepted
  split at accepted
  · cases accepted
  split at accepted
  · cases accepted
  rename_i shutdownTimeout isShutdown
  split at accepted
  · cases accepted
  rename_i requestTimeout isRequest
  split at accepted
  · cases accepted
  cases accepted
  exact ⟨isShutdown, isRequest⟩

/-! ## One variable at a time -/

/-- A source in which one variable is a number and the others are not set. -/
def only (which : Variable) (number : Nat) : String → Option String := fun name =>
  if name = which.name then some (Nat.repr number) else none

theorem Variable.name_injective {left right : Variable} (same : left.name = right.name) :
    left = right := by
  cases left <;> cases right <;> first | rfl | exact absurd same (by decide)

theorem value?_only (other : Variable) :
    value? (only which number) other = if other = which then some (Nat.repr number) else none := by
  by_cases same : other = which
  · subst same
    simp [value?, only, Text.isBlankText_repr]
  · have apart : other.name ≠ which.name := fun names => same (Variable.name_injective names)
    simp [value?, only, apart, same]

theorem number_only (small : number < limit) :
    Settings.number (only which number) which limit unset = .ok number := by
  rw [Settings.number, value?_only, if_pos rfl]
  simp only [Text.trimChars_eq_self Text.isBlank_of_mem_repr, Text.decimal?_repr small]

theorem number_only_of_ne {other : Variable} (apart : other ≠ which) :
    Settings.number (only which number) other limit unset = .ok unset := by
  rw [Settings.number, value?_only, if_neg apart]

theorem address_only (notHost : which ≠ .host) :
    ∃ address, Settings.address (only which number) = .ok address := by
  have isAddress : (Net.Address.parse? "0.0.0.0".toList).isSome = true := by decide +kernel
  rcases Option.isSome_iff_exists.mp isAddress with ⟨address, parsed⟩
  refine ⟨address, ?_⟩
  rw [Settings.address, value?_only, if_neg notHost.symm, Option.getD_none, parsed]

theorem exists_ofSource {address : Net.Address} {port shutdown request key : Nat}
    (isAddress : Settings.address source = .ok address)
    (isPort : Settings.number source .port Word.size16 6000 = .ok port)
    (isShutdown : Settings.number source .shutdownTimeout Word.size64 20 = .ok shutdown)
    (isRequest : requestSeconds source = .ok request)
    (isKey : Settings.number source .keyTimeout Word.size64 2000 = .ok key) :
    ∃ settings, ofSource source = .ok settings ∧ settings.shutdownTimeout = shutdown ∧
      settings.requestTimeout = request := by
  simp only [ofSource, isAddress, isPort, isShutdown, isRequest, isKey, bind, Except.bind, pure,
    Except.pure]
  exact ⟨_, rfl, rfl, rfl⟩

theorem shutdownTimeout_accepted_iff {seconds : Nat} :
    (∃ source settings, ofSource source = .ok settings ∧ settings.shutdownTimeout = seconds) ↔
      seconds < Word.size64 := by
  constructor
  · rintro ⟨source, settings, accepted, rfl⟩
    exact lt_of_number (by decide) (times_of_ofSource accepted).1
  · intro small
    rcases @address_only .shutdownTimeout seconds (by decide) with ⟨address, isAddress⟩
    have isRequest : requestSeconds (only .shutdownTimeout seconds) = .ok 10 :=
      requestSeconds_eq_ok_iff.mpr ⟨number_only_of_ne (by decide), by decide⟩
    rcases exists_ofSource isAddress (number_only_of_ne (by decide)) (number_only small) isRequest
      (number_only_of_ne (by decide)) with ⟨settings, accepted, isTime, _⟩
    exact ⟨_, settings, accepted, isTime⟩

theorem requestTimeout_accepted_iff {seconds : Nat} :
    (∃ source settings, ofSource source = .ok settings ∧ settings.requestTimeout = seconds) ↔
      0 < seconds ∧ seconds < Word.size64 := by
  constructor
  · rintro ⟨source, settings, accepted, rfl⟩
    rcases requestSeconds_eq_ok_iff.mp (times_of_ofSource accepted).2 with ⟨read, positive⟩
    exact ⟨positive, lt_of_number (by decide) read⟩
  · rintro ⟨positive, small⟩
    rcases @address_only .requestTimeout seconds (by decide) with ⟨address, isAddress⟩
    have isRequest : requestSeconds (only .requestTimeout seconds) = .ok seconds :=
      requestSeconds_eq_ok_iff.mpr ⟨number_only small, positive⟩
    rcases exists_ofSource isAddress (number_only_of_ne (by decide)) (number_only_of_ne (by decide))
      isRequest (number_only_of_ne (by decide)) with ⟨settings, accepted, _, isTime⟩
    exact ⟨_, settings, accepted, isTime⟩

end Settings

end TokenAuthority
