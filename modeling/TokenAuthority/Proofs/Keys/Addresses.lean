import Mathlib
import TokenAuthority.Keys.Service
import TokenAuthority.Proofs.Text.Percent

/-!
# Addresses of keys

A key service is asked for a key below its own address: the id is one segment of the path, from
which it can be read back, and nothing in it ends the segment or leads elsewhere.
-/

namespace TokenAuthority

namespace Url

open Text.Percent (Lawful encode decode)

/-! ## Reserved characters -/

def reservedBelow (base : Url) : Char → Bool :=
  if base.isSpecial then Reserved.specialSegment else Reserved.segment

theorem lawful_segment : Lawful Reserved.segment where
  percent := by decide
  beyond value kept := by
    simp [Reserved.segment, Reserved.path, Reserved.fragment, Reserved.control] at kept
    omega

theorem segment_of_reservedBelow {base : Url} {value : Char}
    (kept : base.reservedBelow value = false) : Reserved.segment value = false := by
  unfold reservedBelow at kept
  split at kept
  · exact (Bool.or_eq_false_iff.mp kept).1
  · exact kept

theorem lawful_reservedBelow (base : Url) : Lawful base.reservedBelow where
  percent := by
    unfold reservedBelow
    split <;> decide
  beyond value kept := lawful_segment.beyond value (segment_of_reservedBelow kept)

def StaysInside (base : Url) (value : Char) : Prop :=
  value ∉ ['/', '?', '#'] ∧ (base.isSpecial = true → value ≠ '\\') ∧ Reserved.path value = false

theorem staysInside_of_mem_encode (base : Url) (text : List Char) :
    ∀ value ∈ encode base.reservedBelow text, base.StaysInside value := by
  apply Text.Percent.forall_mem_encode
  · exact ⟨by decide, fun _ => by decide, by decide⟩
  · have digits : ∀ value < 16, Text.Percent.digit value ∉ ['/', '?', '#'] ∧
        Text.Percent.digit value ≠ '\\' ∧ Reserved.path (Text.Percent.digit value) = false := by
      decide
    intro value small
    rcases digits value small with ⟨inside, noBackslash, plain⟩
    exact ⟨inside, fun _ => noBackslash, plain⟩
  · intro value kept
    have plain := segment_of_reservedBelow kept
    simp only [Reserved.segment, Bool.or_eq_false_iff] at plain
    refine ⟨?_, ?_, plain.1⟩
    · intro ends
      simp only [List.mem_cons, List.not_mem_nil, or_false] at ends
      rcases ends with rfl | rfl | rfl
      · exact absurd plain.2 (by decide)
      · exact absurd plain.1 (by decide)
      · exact absurd plain.1 (by decide)
    · rintro special rfl
      simp only [reservedBelow, special, if_true] at kept
      exact absurd kept (by decide)

/-! ## Dots -/

theorem toLower_eq_iff {value target : Char} (caseless : target.isAlpha = false) :
    value.toLower = target ↔ value = target := by
  have kept (other : Char) (plain : other.isAlpha = false) : other.toLower = other :=
    Char.toLower_eq_of_not_isUpper fun upper => by simp [Char.isAlpha, upper] at plain
  constructor
  · intro lowered
    rw [← lowered, Char.isAlpha_toLower_eq_isAlpha] at caseless
    rwa [kept value caseless] at lowered
  · rintro rfl
    exact kept value caseless

theorem toLower_eq_e_iff {value : Char} : value.toLower = 'e' ↔ value = 'e' ∨ value = 'E' := by
  constructor
  · intro lowered
    by_cases upper : value.isUpper = true
    · have raised : value.toUpper = 'E' := by
        rw [← Char.toUpper_toLower_eq_toUpper, lowered]
        rfl
      rw [Char.toUpper_eq_of_not_isLower (Char.not_isLower_of_isUpper upper)] at raised
      exact .inr raised
    · rw [Char.toLower_eq_of_not_isUpper upper] at lowered
      exact .inl lowered
  · rintro (rfl | rfl) <;> rfl

def smallDots : List (List Char) :=
  [['.'], ['%', '2', 'e']]

theorem decode_dot {dot : List Char} (isDot : dot.map Char.toLower ∈ smallDots)
    (rest : List UInt8) : decode (dot.flatMap Text.encodeChar ++ rest) = 46 :: decode rest := by
  have spelled : dot = ['.'] ∨ ∃ last, dot = ['%', '2', last] ∧ (last = 'e' ∨ last = 'E') := by
    simpa [smallDots, List.map_eq_cons_iff, toLower_eq_e_iff,
      @toLower_eq_iff _ '.' (by decide), @toLower_eq_iff _ '%' (by decide),
      @toLower_eq_iff _ '2' (by decide)] using isDot
  rcases spelled with rfl | ⟨_, rfl, rfl | rfl⟩
  · exact Text.Percent.decode_plain (by decide) rest
  · rfl
  · rfl

theorem decode_of_leadsNowhere {segment : List Char} (leads : leadsNowhere segment = true) :
    decode (segment.flatMap Text.encodeChar) = ".".toList.flatMap Text.encodeChar := by
  have isDot : segment.map Char.toLower ∈ smallDots := by
    simpa [leadsNowhere, isDots, smallDots, ← String.toList_inj] using leads
  have reads := decode_dot isDot []
  rwa [List.append_nil] at reads

theorem decode_of_leadsUp {segment : List Char} (leads : leadsUp segment = true) :
    decode (segment.flatMap Text.encodeChar) = "..".toList.flatMap Text.encodeChar := by
  have spelled : ∃ first ∈ smallDots, ∃ second ∈ smallDots,
      segment.map Char.toLower = first ++ second := by
    simpa [leadsUp, isDots, smallDots, ← String.toList_inj, or_assoc] using leads
  rcases spelled with ⟨first, isFirst, second, isSecond, spelled⟩
  rcases List.map_eq_append_iff.mp spelled with ⟨left, right, rfl, rfl, rfl⟩
  have reads := decode_dot isSecond []
  rw [List.append_nil] at reads
  rw [List.flatMap_append, decode_dot isFirst, reads]
  rfl

/-! ## Paths -/

/-- A path without the empty segment at its end, if there is one. -/
def withoutEmptyEnd (segments : List String) : List String :=
  if segments.getLast? = some "" then segments.dropLast else segments

/-- What stays of a path when a segment goes below it, in place of an empty one at its end. Where an
empty segment is taken off and one more is left alone, that one gives way as well. -/
def staying (segments : List String) : List String :=
  if segments = ["", ""] then [] else withoutEmptyEnd segments

theorem staying_ne (segments : List String) : staying segments ≠ [""] := by
  unfold staying withoutEmptyEnd
  split
  · simp
  · rename_i notTwo
    split
    · rename_i ended
      rcases List.getLast?_eq_some_iff.mp ended with ⟨front, rfl⟩
      rw [List.dropLast_concat]
      rintro rfl
      exact notTwo rfl
    · rename_i notEnded
      rintro rfl
      exact notEnded rfl

theorem push_popEmpty (segments : List String) (name : String) :
    push (popEmpty segments) name = staying segments ++ [name] := by
  unfold staying
  by_cases ended : segments.getLast? = some ""
  · rcases List.getLast?_eq_some_iff.mp ended with ⟨front, rfl⟩
    by_cases alone : front = []
    · rw [alone]
      rfl
    · have popped : popEmpty (front ++ [""]) = front := by
        simp [popEmpty, List.length_pos_iff.mpr alone]
      have without : withoutEmptyEnd (front ++ [""]) = front := by simp [withoutEmptyEnd]
      have twice : front ++ [""] = ["", ""] ↔ front = [""] :=
        @List.append_left_inj _ front [""] [""]
      simp only [popped, without, push, twice]
      split
      · rfl
      · rfl
  · have popped : popEmpty segments = segments := if_neg fun both => ended both.2
    have without : withoutEmptyEnd segments = segments := if_neg ended
    have filled : segments ≠ [""] ∧ segments ≠ ["", ""] := by
      constructor
      · rintro rfl
        exact ended rfl
      · rintro rfl
        exact ended rfl
    rw [popped, without, push, if_neg filled.1, if_neg filled.2]

theorem push_named (above : List String) {name : String} (named : name ≠ "") (segment : String) :
    push (above ++ [name]) segment = above ++ [name, segment] := by
  have filled : above ++ [name] ≠ [""] := by
    intro same
    have last := congrArg List.getLast? same
    simp only [List.getLast?_concat, List.getLast?_singleton, Option.some.injEq] at last
    exact named last
  rw [push, if_neg filled, List.append_assoc, List.singleton_append]

theorem follow_segment {base : Url} (reached : List String) {segment : List Char}
    (inside : ∀ value ∈ segment, base.StaysInside value) (up : leadsUp segment = false)
    (nowhere : leadsNowhere segment = false) :
    follow reached (Text.segments '/' segment) = reached ++ [String.ofList segment] := by
  have whole : Text.segments '/' segment = [segment] :=
    Text.segments_of_not_mem fun slash => (inside '/' slash).1 (by decide)
  have kept : encode Reserved.path segment = segment :=
    Text.Percent.encode_of_kept fun value member => (inside value member).2.2
  simp only [whole, follow, up, nowhere, encoded, kept, Bool.or_self, Bool.and_false,
    Bool.false_eq_true, if_false]

/-- Two segments more stand at the end of a url in print. The one url of which this is not so has a
path of one empty segment: nothing but that may be taken for a host. -/
theorem print_below {base : Url} {above : List String} (filled : above ≠ [""])
    {name : String} (named : name ≠ "") (segment : String) :
    ({ base with path := .segments (above ++ [name, segment]), query := none
                 fragment := none } : Url).print =
      ({ base with path := .segments above, query := none, fragment := none } : Url).print ++
        ("/" ++ name ++ "/") ++ segment := by
  have marked : (base.host.isNone && 1 < (above ++ [name, segment]).length &&
      (above ++ [name, segment]).head? == some "") =
        (base.host.isNone && 1 < above.length && above.head? == some "") := by
    match above with
    | [] => simp [named]
    | [first] =>
        have other : first ≠ "" := fun same => filled (by rw [same])
        simp [other]
    | _ :: _ :: _ => simp
  simp only [print, printPath, printAuthority, printUserInfo, marked, List.map_append,
    String.join_append, List.map_cons, List.map_nil, String.join_cons, String.join_nil,
    String.append_assoc, String.append_empty]

end Url

namespace Keys

open Text.Percent (encode decode)

/-- A url leads to the key of an id below a base: everything in front of the path is that of the
base, and behind `above` there are two segments, from the last of which the id can be read. A reader
who follows that segment ends up at it and nowhere else. -/
structure LeadsToKey (base : Url) (above : List String) (id segment : String) (url : Url) :
    Prop where
  below : url = { base with
    path := .segments (above ++ ["keys", segment]), query := none, fragment := none }
  printed : url.print =
    ({ base with path := .segments above, query := none, fragment := none } : Url).print ++
      "/keys/" ++ segment
  readBack : decode (Text.encode segment) = Text.encode id
  inside : ∀ value ∈ segment.toList, base.StaysInside value
  followed : Url.follow (above ++ ["keys"]) (Text.segments '/' segment.toList) =
    above ++ ["keys", segment]

namespace Service

theorem toList_segmentOf (base : Url) (id : String) :
    (segmentOf base id).toList = encode base.reservedBelow id.toList :=
  String.toList_ofList

theorem isSegment_eq_false_iff {id : String} :
    isSegment id = false ↔
      id = "" ∨ id = "." ∨ id = ".." ∨ ∃ value ∈ id.toList, isControl value = true := by
  simp only [isSegment, Bool.not_eq_false', Bool.or_eq_true, String.isEmpty_iff, beq_iff_eq,
    List.any_eq_true, or_assoc]

theorem decode_segmentOf (base : Url) (id : String) :
    decode (Text.encode (segmentOf base id)) = Text.encode id := by
  rw [Text.encode, toList_segmentOf]
  exact Text.Percent.decode_encode base.lawful_reservedBelow id.toList

theorem segmentOf_injective (base : Url) {first second : String}
    (same : segmentOf base first = segmentOf base second) : first = second := by
  apply String.toList_inj.mp
  apply Text.Percent.encode_injective base.lawful_reservedBelow
  rw [← toList_segmentOf, same, toList_segmentOf]

theorem segmentOf_stays (base : Url) {id : String} (isSegment : isSegment id = true) :
    Url.leadsUp (segmentOf base id).toList = false ∧
      Url.leadsNowhere (segmentOf base id).toList = false := by
  have reads := decode_segmentOf base id
  have notDots : id ≠ "." ∧ id ≠ ".." := by
    constructor
    · rintro rfl
      cases isSegment
    · rintro rfl
      cases isSegment
  constructor
  · apply Bool.eq_false_iff.mpr
    intro leads
    rw [Text.encode, Url.decode_of_leadsUp leads] at reads
    exact notDots.2 (String.toList_inj.mp (Text.flatMap_encodeChar_injective reads)).symm
  · apply Bool.eq_false_iff.mpr
    intro leads
    rw [Text.encode, Url.decode_of_leadsNowhere leads] at reads
    exact notDots.1 (String.toList_inj.mp (Text.flatMap_encodeChar_injective reads)).symm

theorem base_of_accepted {address : String} {service : Service}
    (accepted : ofAddress address = .ok service) :
    ∃ segments, service.base.path = .segments segments := by
  unfold ofAddress at accepted
  split at accepted
  · cases accepted
  · split at accepted
    · cases accepted
    · rename_i segments isPath
      cases accepted
      exact ⟨segments, isPath⟩

section Base

variable {base : Url} {segments : List String} (hasPath : base.path = .segments segments)
include hasPath

theorem keyUrl?_eq_none_iff {id : String} :
    keyUrl? base id = none ↔ isSegment id = false := by
  simp [keyUrl?, hasPath]

theorem leadsToKey_of_keyUrl? {id : String} {url : Url} (isUrl : keyUrl? base id = some url) :
    LeadsToKey base (Url.staying segments) id (segmentOf base id) url := by
  have asSegment : isSegment id = true := by
    by_contra refused
    rw [(keyUrl?_eq_none_iff hasPath).mpr (by simpa using refused)] at isUrl
    cases isUrl
  have below : url = { base with
      path := .segments (Url.staying segments ++ ["keys", segmentOf base id]), query := none
      fragment := none } := by
    simp only [keyUrl?, hasPath, asSegment, if_true, Option.some.injEq, Url.push_popEmpty,
      Url.push_named _ (by decide : "keys" ≠ "")] at isUrl
    exact isUrl.symm
  have inside : ∀ value ∈ (segmentOf base id).toList, base.StaysInside value := by
    rw [toList_segmentOf]
    exact Url.staysInside_of_mem_encode base id.toList
  rcases segmentOf_stays base asSegment with ⟨up, nowhere⟩
  refine ⟨below, ?_, decode_segmentOf base id, inside, ?_⟩
  · have slashes : "/" ++ "keys" ++ "/" = "/keys/" := by decide
    rw [below, Url.print_below (Url.staying_ne segments) (by decide), slashes]
  · rw [Url.follow_segment _ inside up nowhere, String.ofList_toList, List.append_assoc]
    rfl

end Base

/-- Below the address of every service to which keys can be below, each id has its own address, save
those that are no segment, for which the service is not asked. It lies below the path of the service
without an empty segment at the end, except that a path of two empty segments is lost. -/
theorem addresses_confined (address : String) (service : Service)
    (accepted : ofAddress address = .ok service) :
    ∃ segments above, service.base.path = .segments segments ∧
      (segments ≠ ["", ""] → above = Url.withoutEmptyEnd segments) ∧
      (segments = ["", ""] → above = []) ∧
      (∀ id, keyUrl? service.base id = none ↔
        id = "" ∨ id = "." ∨ id = ".." ∨ ∃ value ∈ id.toList, isControl value = true) ∧
      (∀ (later : Service) (now : Nat) (id : String) transport sent,
        later.base = service.base → later.fresh? now id = none →
        keyUrl? service.base id = none →
        later.find now id transport sent = { service := later, result := .error (.notFound id) }) ∧
      (∀ id url, keyUrl? service.base id = some url →
        ∃ segment, LeadsToKey service.base above id segment url) ∧
      (∀ first second firstUrl secondUrl, keyUrl? service.base first = some firstUrl →
        keyUrl? service.base second = some secondUrl → firstUrl.print = secondUrl.print →
        first = second) := by
  rcases base_of_accepted accepted with ⟨segments, hasPath⟩
  refine ⟨segments, Url.staying segments, hasPath, fun other => if_neg other,
    fun two => if_pos two, ?_, ?_, ?_, ?_⟩
  · intro id
    rw [keyUrl?_eq_none_iff hasPath, isSegment_eq_false_iff]
  · intro later now id transport sent sameBase stale refused
    simp only [find, start, stale, sameBase, refused]
  · intro id url isUrl
    exact ⟨segmentOf service.base id, leadsToKey_of_keyUrl? hasPath isUrl⟩
  · intro first second firstUrl secondUrl isFirst isSecond same
    rw [(leadsToKey_of_keyUrl? hasPath isFirst).printed,
      (leadsToKey_of_keyUrl? hasPath isSecond).printed] at same
    exact segmentOf_injective service.base ((String.append_right_inj _).mp same)

/-! A service whose address ends in one slash more than the others. -/

def slashedService : Service where
  base := {
    scheme := "http"
    host := some (.address (.long [0, 0, 0, 0, 0, 0, 0, 1]))
    path := .segments ["", ""] }

theorem slashedService_asked :
    ofAddress "http://[::1]//" = .ok slashedService ∧
      ∃ segment url, keyUrl? slashedService.base "k" = some url ∧
        LeadsToKey slashedService.base [] "k" segment url ∧
        url.print = "http://[::1]/keys/k" := by
  have accepted : ofAddress "http://[::1]//" = .ok slashedService := by cbv
  rcases addresses_confined _ _ accepted with
    ⟨segments, above, hasPath, _, lost, _, _, leads, _⟩
  cases hasPath
  cases lost rfl
  have isUrl : keyUrl? slashedService.base "k" =
      some { slashedService.base with path := .segments ["keys", "k"] } := by cbv
  rcases leads "k" _ isUrl with ⟨segment, leads⟩
  exact ⟨accepted, segment, _, isUrl, leads, by cbv⟩

end Service

end Keys

end TokenAuthority
