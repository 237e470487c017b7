import Mathlib.Data.List.TakeWhile
import Multimeter.DeviceId
import Multimeter.Proofs.Numerals

/-!
# The texts of device ids

A text is read as a device id if both sides of its first colon are numerals below 256, in whatever
spelling: with a plus sign, with zeros in front, with blanks around them. Otherwise the first side
that is none decides the error, and is quoted with its blanks. The text that is written for an id is
one of its spellings.

## Main results

* `DeviceId.readPart_eq_ok_iff`: what one side of the colon is read as.
* `DeviceId.parse_text`: an id is read from its own text.
* `DeviceId.reads_spellings`: what is read, and with which error the rest is refused.
-/

namespace Multimeter.DeviceId

variable {cs bus address : List Char} {text : String} {id : DeviceId}

/-! ## The first colon -/

theorem splitColon?_of_not_mem (none_there : ':' ∉ cs) : splitColon? cs = none := by
  have all : ∀ c ∈ cs, (c != ':') = true := fun c hc => by
    simpa using ne_of_mem_of_not_mem hc none_there
  rw [splitColon?, List.dropWhile_eq_nil_iff.2 all]

theorem splitColon?_append (first : ':' ∉ bus) (address : List Char) :
    splitColon? (bus ++ ':' :: address) = some (bus, address) := by
  have all : ∀ c ∈ bus, (c != ':') = true := fun c hc => by
    simpa using ne_of_mem_of_not_mem hc first
  have rest : (bus ++ ':' :: address).dropWhile (· != ':') = ':' :: address := by
    rw [List.dropWhile_append_of_pos all, List.dropWhile_cons_of_neg (by decide)]
  have taken : (bus ++ ':' :: address).takeWhile (· != ':') = bus := by
    rw [List.takeWhile_append_of_pos all, List.takeWhile_cons_of_neg (by decide), List.append_nil]
  simp only [splitColon?, rest, taken]

/-! ## The two sides -/

/-- A side is read as the number below 256 that it denotes, or it denotes none. -/
theorem readPart_cases (part : List Char) :
    (∃ b : UInt8, readPart part = .ok b ∧ Text.Denotes part b.toNat) ∨
      ∃ cause, readPart part = .error cause ∧ ∀ n ≤ 255, ¬ Text.Denotes part n := by
  cases read : Text.readUnsigned 255 (Text.trim part) with
  | error cause =>
    exact .inr ⟨cause, by rw [readPart, read]; rfl, Text.not_denotes_of_error read⟩
  | ok n =>
    obtain ⟨denotes, small⟩ := (Text.readUnsigned_trim_eq_ok_iff 255 n part).1 read
    have same : n.toUInt8.toNat = n := UInt8.toNat_ofNat_of_lt' (Nat.lt_succ_of_le small)
    exact .inl ⟨n.toUInt8, by rw [readPart, read]; rfl, by rwa [same]⟩

/-- One side of the colon is read as what it denotes. -/
theorem readPart_eq_ok_iff (part : List Char) (b : UInt8) :
    readPart part = .ok b ↔ Text.Denotes part b.toNat := by
  constructor
  · intro read
    rcases readPart_cases part with ⟨b', read', denotes⟩ | ⟨cause, refused, -⟩
    · obtain rfl : b = b' := Except.ok.inj (read.symm.trans read')
      exact denotes
    · rw [refused] at read
      cases read
  · intro denotes
    have below : b.toNat ≤ 255 := Nat.le_of_lt_succ b.toNat_lt
    have read := (Text.readUnsigned_trim_eq_ok_iff 255 b.toNat part).2 ⟨denotes, below⟩
    rw [readPart, read]
    exact congrArg Except.ok UInt8.ofNat_toNat

/-! ## Whole texts -/

theorem parse_append (parts : text.toList = bus ++ ':' :: address) (first : ':' ∉ bus) :
    parse text =
      match readPart bus with
      | .error e => .error (.badBus (String.ofList bus) e)
      | .ok b =>
        match readPart address with
        | .error e => .error (.badAddress (String.ofList address) e)
        | .ok a => .ok ⟨b, a⟩ := by
  have sides : splitColon? text.toList = some (bus, address) := by
    rw [parts, splitColon?_append first]
  cases read : readPart bus with
  | error e => simp only [parse, sides, read]
  | ok b => cases read' : readPart address <;> simp only [parse, sides, read, read']

theorem parse_of_not_mem (none_there : ':' ∉ text.toList) :
    parse text = .error (.noColon text) := by
  simp only [parse, splitColon?_of_not_mem none_there]

theorem parse_eq_ok_iff (parts : text.toList = bus ++ ':' :: address) (first : ':' ∉ bus) :
    parse text = .ok id ↔
      Text.Denotes bus id.bus.toNat ∧ Text.Denotes address id.address.toNat := by
  rw [parse_append parts first, ← readPart_eq_ok_iff, ← readPart_eq_ok_iff]
  obtain ⟨b, a⟩ := id
  cases readPart bus with
  | error => simp
  | ok b' => cases readPart address <;> simp

/-- An id is read from its own text. -/
theorem parse_text (id : DeviceId) : parse id.text = .ok id := by
  have digits := Text.isDecimal_padded 3 id.bus.toNat
  have first : ':' ∉ (Text.padded 3 id.bus.toNat).toList := fun colon =>
    absurd (digits.all ':' colon) (by decide)
  refine (parse_eq_ok_iff (by simp [text]) first).2
    ⟨Text.denotes_padded 3 _, Text.denotes_padded 3 _⟩

/-- A text is read as an id exactly if it has a colon and the first one stands between numerals of
the two values. Otherwise the missing colon is reported, or the bus if that is no numeral below
256, or the address, in this order and as it stands in the text. What is written for an id is read
as the id, whether or not the id was read itself. -/
theorem reads_spellings (text : String) :
    (∀ id, parse text = .ok id ↔ ∃ bus address, text.toList = bus ++ ':' :: address ∧
      ':' ∉ bus ∧ Text.Denotes bus id.bus.toNat ∧ Text.Denotes address id.address.toNat) ∧
    (':' ∉ text.toList → ∃ e, parse text = .error e ∧ e = .noColon text ∧
      e.message = "Expected bus:address, got '" ++ text ++ "'") ∧
    (∀ bus address, text.toList = bus ++ ':' :: address → ':' ∉ bus →
      ((∀ n ≤ 255, ¬ Text.Denotes bus n) → ∃ e cause, parse text = .error e ∧
        e = .badBus (String.ofList bus) cause ∧
        e.message = "Invalid bus number '" ++ String.ofList bus ++ "': " ++ cause.message) ∧
      ((∃ n ≤ 255, Text.Denotes bus n) → (∀ n ≤ 255, ¬ Text.Denotes address n) →
        ∃ e cause, parse text = .error e ∧ e = .badAddress (String.ofList address) cause ∧
          e.message = "Invalid address '" ++ String.ofList address ++ "': " ++ cause.message)) ∧
    (∀ id, parse text = .ok id → parse id.text = .ok id) ∧
    ∀ id : DeviceId, parse id.text = .ok id := by
  refine ⟨fun id => ⟨fun read => ?_, ?_⟩, fun none_there => ?_, fun bus address parts first => ?_,
    fun id _ => parse_text id, parse_text⟩
  · by_cases colon : ':' ∈ text.toList
    · obtain ⟨bus, address, parts, first⟩ := List.eq_append_cons_of_mem colon
      exact ⟨bus, address, parts, first, (parse_eq_ok_iff parts first).1 read⟩
    · rw [parse_of_not_mem colon] at read
      cases read
  · rintro ⟨bus, address, parts, first, denoted⟩
    exact (parse_eq_ok_iff parts first).2 denoted
  · exact ⟨_, parse_of_not_mem none_there, rfl, rfl⟩
  · rw [parse_append parts first]
    rcases readPart_cases bus with ⟨b, read, denotes⟩ | ⟨cause, read, bad⟩
    · refine ⟨fun bad => absurd denotes (bad _ (Nat.le_of_lt_succ b.toNat_lt)), fun _ bad => ?_⟩
      rcases readPart_cases address with ⟨a, -, denotes⟩ | ⟨cause, read', -⟩
      · exact absurd denotes (bad _ (Nat.le_of_lt_succ a.toNat_lt))
      · rw [read, read']
        exact ⟨_, cause, rfl, rfl, rfl⟩
    · rw [read]
      exact ⟨fun _ => ⟨_, cause, rfl, rfl, rfl⟩,
        fun ⟨n, small, denotes⟩ => absurd denotes (bad n small)⟩

/-- A text with a sign, zeros and blanks, one with a second colon, and one whose first side is too
large while the second is missing. -/
theorem reads_spellings_padded :
    parse "\u2003+0003:\t12 " = .ok ⟨3, 12⟩ ∧
    (∃ e cause, parse " 3:4:5" = .error e ∧ e = .badAddress "4:5" cause) ∧
    (∃ e cause, parse " 256:" = .error e ∧ e = .badBus " 256" cause) ∧
    ∃ e, parse "256" = .error e ∧ e = .noColon "256" := by
  have three : Text.Denotes "\u2003+0003".toList 3 :=
    ⟨['\u2003'], ['+', '0', '0', '0', '3'], [], rfl, List.all_eq_true.1 rfl,
      List.all_eq_true.1 rfl, .signed ⟨by decide, List.all_eq_true.1 rfl, rfl⟩⟩
  have twelve : Text.Denotes "\t12 ".toList 12 :=
    ⟨['\t'], ['1', '2'], [' '], rfl, List.all_eq_true.1 rfl, List.all_eq_true.1 rfl,
      .plain ⟨by decide, List.all_eq_true.1 rfl, rfl⟩⟩
  have plain : Text.Denotes " 3".toList 3 :=
    ⟨[' '], ['3'], [], rfl, List.all_eq_true.1 rfl, List.all_eq_true.1 rfl,
      .plain ⟨by decide, List.all_eq_true.1 rfl, rfl⟩⟩
  refine ⟨((reads_spellings _).1 _).2 ⟨_, _, rfl, by decide, three, twelve⟩, ?_, ?_, ?_⟩
  · obtain ⟨-, -, sides, -⟩ := reads_spellings " 3:4:5"
    obtain ⟨e, cause, refused, bad, -⟩ := (sides " 3".toList "4:5".toList rfl (by decide)).2
      ⟨3, by decide, plain⟩ (Text.not_denotes_of_error (e := .invalidDigit) rfl)
    exact ⟨e, cause, refused, bad⟩
  · obtain ⟨-, -, sides, -⟩ := reads_spellings " 256:"
    obtain ⟨e, cause, refused, bad, -⟩ := (sides " 256".toList [] rfl (by decide)).1
      (Text.not_denotes_of_error (e := .tooLarge) rfl)
    exact ⟨e, cause, refused, bad⟩
  · obtain ⟨e, refused, missing, -⟩ := (reads_spellings "256").2.1 (by decide)
    exact ⟨e, refused, missing⟩

end Multimeter.DeviceId
