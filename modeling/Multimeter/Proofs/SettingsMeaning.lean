import Mathlib.Data.List.Perm.Basic
import Mathlib.Data.Option.Basic
import Multimeter.Proofs.Encodings

/-!
# What a settings file means

The members of an object give a setting if none has its key, which leaves the default, or a single
one has it and holds a value of the right form. Members with other keys give nothing, but their
keys have to be texts. All of this is about the members, so that it is the same for every text of
them.

## Main definitions

* `Json.Says`: what the members of an object say about a key.
* `Settings.Means`: what they say about the settings.

## Main results

* `Settings.ofFile?_means`: what the text of an object is accepted as, and what that does not
  depend on.
-/

namespace Multimeter

open Text (Symbol)

namespace Json

variable {members members' : List (Option String × Json)} {key : String} {v : Json}

/-! ## Members by key -/

theorem member?_eq_absent_iff :
    member? key members = some none ↔ ∀ m ∈ members, m.1 ≠ some key := by
  have missing : (∀ m ∈ members, m.1 ≠ some key) ↔ members.filter (·.1 == some key) = [] := by
    simp [List.filter_eq_nil_iff]
  rw [missing, member?]
  generalize members.filter (·.1 == some key) = found
  rcases found with _ | ⟨_, _ | _⟩ <;> simp

theorem member?_eq_present_iff :
    member? key members = some (some v) ↔ ∃ before after,
      members = before ++ (some key, v) :: after ∧ ∀ m ∈ before ++ after, m.1 ≠ some key := by
  have single : member? key members = some (some v) ↔
      ∃ m, m.2 = v ∧ members.filter (·.1 == some key) = [m] := by
    rw [member?]
    generalize members.filter (·.1 == some key) = found
    rcases found with _ | ⟨_, _ | _⟩ <;> simp
  simp only [single, List.filter_eq_cons_iff, List.filter_eq_nil_iff, beq_iff_eq]
  constructor
  · rintro ⟨⟨k, _⟩, rfl, before, after, rfl, none, rfl, none'⟩
    exact ⟨before, after, rfl, List.forall_mem_append.2 ⟨none, none'⟩⟩
  · rintro ⟨before, after, rfl, none⟩
    obtain ⟨none, none'⟩ := List.forall_mem_append.1 none
    exact ⟨(some key, v), rfl, before, after, rfl, none, rfl, none'⟩

/-- Where the members with the key are the same, in any order, so is what they hold. -/
theorem member?_perm (h : (members.filter (·.1 == some key)).Perm
    (members'.filter (·.1 == some key))) : member? key members = member? key members' := by
  unfold member?
  generalize members.filter (·.1 == some key) = found at h ⊢
  generalize members'.filter (·.1 == some key) = found' at h ⊢
  rcases found with _ | ⟨m, _ | ⟨m', ms⟩⟩
  · rw [h.nil_eq]
  · rw [List.perm_singleton.1 h.symm]
  · rcases found' with _ | ⟨_, _ | _⟩
    · exact absurd h.length_eq (by simp)
    · exact absurd h.length_eq (by simp)
    · rfl

/-- Nothing is said about the key, which means the default, or it is said once. -/
inductive Says {α : Type} (members : List (Option String × Json)) (key : String) (default : α)
    (means : Json → α → Prop) : α → Prop
  | absent (missing : ∀ m ∈ members, m.1 ≠ some key) : Says members key default means default
  | present {before after : List (Option String × Json)} {v : Json} {a : α}
      (here : members = before ++ (some key, v) :: after)
      (once : ∀ m ∈ before ++ after, m.1 ≠ some key) (value : means v a) :
      Says members key default means a

theorem field?_eq_some_iff {α : Type} {default a : α} {read : Json → Option α}
    {means : Json → α → Prop} (reads : ∀ v a, read v = some a ↔ means v a) :
    field? members key default read = some a ↔ Says members key default means a := by
  simp only [field?, bind, Option.bind_eq_some_iff, Option.exists, member?_eq_absent_iff, reads,
    member?_eq_present_iff, Option.some.injEq]
  constructor
  · rintro (⟨missing, rfl⟩ | ⟨v, ⟨before, after, here, once⟩, value⟩)
    · exact .absent missing
    · exact .present here once value
  · rintro (missing | ⟨here, once, value⟩)
    · exact .inl ⟨missing, rfl⟩
    · exact .inr ⟨_, ⟨_, _, here, once⟩, value⟩

theorem u64?_eq_some_iff {n : UInt64} : v.u64? = some n ↔ v = ofNat n.toNat := by
  constructor
  · intro h
    obtain ⟨k, bounded, rfl⟩ := Option.map_eq_some_iff.1 h
    unfold natBelow? at bounded
    split at bounded
    · split at bounded
      · cases bounded
        rw [ofNat, UInt64.toNat_ofNat_of_lt' ‹_›]
      · cases bounded
    · cases bounded
  · rintro rfl
    exact u64?_ofNat n

end Json

namespace Settings

open Json

variable {members members' : List (Option String × Json)} {s : Settings}

/-- The preferred device is a text, or `null` for none. -/
inductive IsDevice : Json → Option String → Prop
  | null : IsDevice .null none
  | text (t : String) : IsDevice (.ofString t) (some t)

/-- A limit is a natural number of 64 bits. -/
def IsLimit (v : Json) (n : UInt64) : Prop := v = .ofNat n.toNat

/-- What the members of an object say about each of the settings. -/
structure Means (members : List (Option String × Json)) (s : Settings) : Prop where
  device : Says members "device" none IsDevice s.device
  limitMsec : Says members "limit_msec" 0 IsLimit s.limitMsec
  limitSamples : Says members "limit_samples" 0 IsLimit s.limitSamples

theorem optional?_text?_eq_some_iff {v : Json} {device : Option String} :
    optional? text? v = some device ↔ IsDevice v device := by
  constructor
  · intro h
    cases v with
    | null =>
      cases h
      exact .null
    | str t =>
      obtain ⟨t, rfl, rfl⟩ := Option.map_eq_some_iff.1 h
      exact .text t
    | bool | num | arr | obj => cases h
  · rintro (_ | _) <;> rfl

theorem ofJson?_obj_eq_some_iff :
    ofJson? (.obj members) = some s ↔ (∀ m ∈ members, m.1.isSome) ∧ Means members s := by
  have limit (key : String) (n : UInt64) :
      field? members key 0 u64? = some n ↔ Says members key 0 IsLimit n :=
    field?_eq_some_iff fun v n => u64?_eq_some_iff
  have device (device : Option String) : field? members "device" none (optional? text?) =
      some device ↔ Says members "device" none IsDevice device :=
    field?_eq_some_iff fun v device => optional?_text?_eq_some_iff
  have keys : keysAreTexts members = true ↔ ∀ m ∈ members, m.1.isSome := List.all_eq_true
  simp only [ofJson?, bind, Option.bind_eq_some_iff, device, limit, Option.guard_eq_some', keys,
    Option.some.injEq]
  constructor
  · rintro ⟨-, texts, _, device, _, limitMsec, _, limitSamples, rfl⟩
    exact ⟨texts, device, limitMsec, limitSamples⟩
  · rintro ⟨texts, means⟩
    exact ⟨(), texts, _, means.device, _, means.limitMsec, _, means.limitSamples, rfl⟩

/-- The members that settings are taken from. -/
def isKnown (m : Option String × Json) : Bool :=
  m.1 == some "device" || m.1 == some "limit_msec" || m.1 == some "limit_samples"

/-- Only the known members and whether all keys are texts make a difference, and no order does. -/
theorem ofJson?_obj_perm (known : (members.filter isKnown).Perm (members'.filter isKnown))
    (texts : keysAreTexts members = keysAreTexts members') :
    ofJson? (.obj members) = ofJson? (.obj members') := by
  have field {α : Type} (key : String) (default : α) (read : Json → Option α)
      (mem : ∀ m : Option String × Json, m.1 = some key → isKnown m = true) :
      field? members key default read = field? members' key default read := by
    have same : (members.filter (·.1 == some key)).Perm (members'.filter (·.1 == some key)) := by
      have both (m : Option String × Json) :
          (m.1 == some key && isKnown m) = (m.1 == some key) := by
        rw [Bool.and_eq_left_iff_imp]
        exact fun h => mem m (beq_iff_eq.1 h)
      simpa only [List.filter_filter, both] using known.filter (·.1 == some key)
    rw [field?, field?, member?_perm same]
  have device := field "device" none (optional? text?) fun m h => by simp [isKnown, h]
  have limitMsec := field "limit_msec" 0 u64? fun m h => by simp [isKnown, h]
  have limitSamples := field "limit_samples" 0 u64? fun m h => by simp [isKnown, h]
  simp only [ofJson?, texts, device, limitMsec, limitSamples]

/-- The text of an object is accepted exactly if all its keys are texts and each known key is
missing or occurs once with a value of the right form, and then it gives these values and the
defaults. It makes no difference how the object is written, which order its members have, and which
members with unknown keys it has, as long as these are texts. -/
theorem ofFile?_means :
    (∀ (members : List (Option String × Json)) (text : List Symbol),
      Renders (tokensOf (.obj members)) text → ∀ s, ofFile? text = some s ↔
        (∀ m ∈ members, m.1.isSome) ∧ Means members s) ∧
    ∀ (members members' : List (Option String × Json)) (text text' : List Symbol),
      Renders (tokensOf (.obj members)) text → Renders (tokensOf (.obj members')) text' →
      (members.filter isKnown).Perm (members'.filter isKnown) →
      ((∀ m ∈ members, m.1.isSome) ↔ ∀ m ∈ members', m.1.isSome) →
      ofFile? text = ofFile? text' := by
  constructor
  · intro members text renders s
    rw [ofFile?, ofSymbols?_of_renders renders, Option.bind_some, ofJson?_obj_eq_some_iff]
  · intro members members' text text' renders renders' known texts
    rw [ofFile?, ofFile?, ofSymbols?_of_renders renders, ofSymbols?_of_renders renders',
      Option.bind_some, Option.bind_some]
    refine ofJson?_obj_perm known (Bool.eq_iff_iff.2 ?_)
    simpa [keysAreTexts] using texts

/-- An unknown member, one of the limits and a default. -/
theorem ofFile?_means_partial :
    ofFile? (Symbol.ofString "\x7b\x22x\x22:null,\x22limit_samples\x22:5\x7d") =
        some { limitSamples := 5 } ∧
      ofFile? (Symbol.ofString "\x7b\x22limit_samples\x22:5\x7d") =
        ofFile? (Symbol.ofString "\x7b\x22x\x22:null,\x22limit_samples\x22:5\x7d") := by
  have plain : IsPlain (record [("limit_samples", ofNat 5)]) :=
    isPlain_record (by simp [IsPlain.natural])
  have plain' : IsPlain (record [("x", .null), ("limit_samples", ofNat 5)]) :=
    isPlain_record (by simp [IsPlain.natural, IsPlain.null])
  have renders := plain.prints_compact.renders_text
  have renders' := plain'.prints_compact.renders_text
  obtain ⟨means, same⟩ := ofFile?_means
  have given : Says [(some "x", .null), (some "limit_samples", ofNat 5)] "limit_samples" 0
      IsLimit 5 :=
    .present (rfl : _ = [(some "x", .null)] ++ (some "limit_samples", ofNat 5) :: []) (by simp) rfl
  exact ⟨(means _ _ renders' _).2 ⟨by decide, .absent (by decide), .absent (by decide), given⟩,
    same _ _ _ _ renders renders' (.refl _) (by decide)⟩

/-- A key that is half of a surrogate pair is no known key, but it is not passed over. -/
theorem ofFile?_stray_key :
    Renders (tokensOf (.obj [(none, ofNat 2)])) (Symbol.ofString "\x7b\x22\x5cud83d\x22:2\x7d") ∧
      Means [(none, ofNat 2)] {} ∧
      ofFile? (Symbol.ofString "\x7b\x22\x5cud83d\x22:2\x7d") = none := by
  have key : Token.Spells (.str none) (Symbol.ofString "\x22\x5cud83d\x22") :=
    .str (.unit (rfl : unit? 'd' '8' '3' 'd' = some 0xd83d) .nil)
  have value : Token.Spells (.num (.natural 2)) [.char '2'] := spells_natural 2
  refine ⟨?_, ⟨.absent ?_, .absent ?_, .absent ?_⟩, by decide +kernel⟩
  · exact .cons .openBrace nofun (.cons key nofun (.cons .colon nofun
      (.cons value (fun _ => stopsNumber_cons.2 rfl) (.cons .closeBrace nofun .nil))))
  all_goals simp

end Settings

end Multimeter
