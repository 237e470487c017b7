import Multimeter.Proofs.Encodings
import Multimeter.Settings.File

/-!
# The settings file

A file that is put where no directory is leaves the way along every path as it was, since a path
only goes through directories. So the settings that were written at a path are found by the same
path again, and they are read as what was written.

## Main definitions

* `Settings.Writable`: a file can be made or opened at a path.

## Main results

* `Settings.write_ok_iff`: writing fails only if no file can be made or opened.
* `Settings.read_write`: what was written is read.
* `Settings.survives_encoding`: settings, configurations and limits survive their encodings.
-/

namespace Multimeter

open Text (Symbol)

namespace Files

variable {fs : Files} {place : Place}

/-! ## Putting a file -/

/-- Nothing stands at the place, or something that no path goes through. -/
def IsFree (fs : Files) (place : Place) : Prop := fs.node? place ≠ some .directory

theorem IsFree.ne_root (free : fs.IsFree place) : place ≠ .root := by
  rintro rfl
  exact free (if_pos rfl)

theorem node?_put_self (ne : place ≠ .root) (n : Node) :
    (fs.put place n).node? place = some n := by
  simp [node?, put, ne]

theorem node?_put_of_ne {q : Place} (ne : q ≠ place) (n : Node) :
    (fs.put place n).node? q = fs.node? q := by
  have other : (fun e : Place × Node => decide (e.1 != place ∧ e.1 == q)) = (·.1 == q) := by
    funext e
    by_cases h : e.1 = q <;> simp [h, ne]
  have found : ((place, n) :: fs.nodes.filter (·.1 != place)).find? (·.1 == q) =
      fs.nodes.find? (·.1 == q) := by
    rw [List.find?_cons_of_neg (by simpa using ne.symm), List.find?_filter, other]
  simp only [node?, put, found]

@[simp] theorem isReadOnly_put_self (n : Node) : (fs.put place n).isReadOnly place = false := by
  simp [isReadOnly, put]

theorem make_eq_ok {directory : Place} {name : String} {n : Node} {fs' : Files}
    (h : fs.make directory name n = .ok fs') : fs' = fs.put (directory.child name) n := by
  unfold make at h
  split at h <;> cases h
  rfl

theorem child?_eq_ok {q : Place} {name : String} {n : Option Node} :
    fs.child? q name = .ok n ↔
      name.utf8ByteSize ≤ longestName ∧ fs.node? (q.child name) = n := by
  unfold child?
  split
  · simp only [reduceCtorEq, false_iff]
    omega
  · simp only [Except.ok.injEq, iff_and_self]
    omega

/-- No directory goes away. -/
theorem IsFree.directory_put {q : Place} {name : String} (free : fs.IsFree place) (n : Node)
    (h : fs.child? q name = .ok (some .directory)) :
    (fs.put place n).child? q name = .ok (some .directory) := by
  rw [child?_eq_ok] at h ⊢
  refine ⟨h.1, ?_⟩
  rw [node?_put_of_ne, h.2]
  rintro rfl
  exact free h.2

theorem IsFree.enter_put {q q' : Place} {name : String} (free : fs.IsFree place) (n : Node)
    (h : fs.enter q name = .ok q') : (fs.put place n).enter q name = .ok q' := by
  by_cases stay : name = "."
  · simpa [enter, stay] using h
  by_cases up : name = ".."
  · simpa [enter, up] using h
  simp only [enter, if_neg stay, if_neg up] at h ⊢
  split at h <;> cases h
  rw [free.directory_put n ‹_›]

/-- The way along a path does not change. -/
theorem IsFree.follow_put {p : Path} {found : Place × String} (free : fs.IsFree place) (n : Node)
    (h : fs.follow p = .ok found) : (fs.put place n).follow p = .ok found := by
  have walk : ∀ (names : List String) (q q' : Place), names.foldlM fs.enter q = .ok q' →
      names.foldlM (fs.put place n).enter q = .ok q' := by
    intro names
    induction names with
    | nil => exact fun _ _ h => h
    | cons name names ih =>
      intro q q' h
      rw [List.foldlM_cons] at h ⊢
      cases entered : fs.enter q name with
      | error e =>
        rw [entered] at h
        cases h
      | ok next =>
        rw [entered] at h
        rw [free.enter_put n entered]
        exact ih next q' h
  unfold follow at h ⊢
  split at h
  · cases h
  split at h
  · cases h
  split at h
  · cases h
  rw [if_neg ‹_›, if_neg ‹_›, if_neg ‹_›]
  cases walked : p.names.dropLast.foldlM fs.enter (fs.start p) with
  | error e =>
    rw [walked] at h
    cases h
  | ok q =>
    rw [walked] at h
    rw [show (fs.put place n).start p = fs.start p from rfl, walk _ _ _ walked]
    exact h

/-! ## Reading what was put -/

/-- The path names a file at the place, if there is one. -/
structure LeadsTo (fs : Files) (p : Path) (directory : Place) (name : String) : Prop where
  follow : fs.follow p = .ok (directory, name)
  named : isDot name = false
  short : name.utf8ByteSize ≤ longestName
  no_slash : p.endsInSlash = false

namespace LeadsTo

variable {p : Path} {directory : Place} {name : String}

theorem put (h : fs.LeadsTo p directory name) (free : fs.IsFree place) (n : Node) :
    (fs.put place n).LeadsTo p directory name :=
  { h with follow := free.follow_put n h.follow }

theorem openForReading (h : fs.LeadsTo p directory name) {contents : Contents}
    (file : fs.node? (directory.child name) = some (.file contents)) :
    fs.openForReading p = .ok (.file contents) := by
  have child := child?_eq_ok.2 ⟨h.short, file⟩
  simp [Files.openForReading, h.follow, h.named, h.no_slash, child, bind, Except.bind]

end LeadsTo

/-- Opening for writing finds a device, or it makes an empty file where no directory is. -/
theorem openForWriting_eq_ok {p : Path} {fs' : Files} (h : fs.openForWriting p = .ok (place, fs')) :
    ∃ directory name, fs.LeadsTo p directory name ∧ place = directory.child name ∧
      (fs.node? place = some .device ∧ fs' = fs ∨
        fs.IsFree place ∧ fs' = fs.put place (.file [])) := by
  simp only [openForWriting, bind, Except.bind] at h
  split at h
  · cases h
  rename_i followed hfollow
  obtain ⟨directory, name⟩ := followed
  dsimp only at h
  split at h
  · cases h
  rename_i ok
  split at h
  · cases h
  rename_i n hn
  obtain ⟨short, node⟩ := child?_eq_ok.1 hn
  simp only [Bool.or_eq_true, not_or, Bool.not_eq_true] at ok
  have leads : fs.LeadsTo p directory name := ⟨hfollow, ok.1, short, ok.2⟩
  cases n with
  | none =>
    dsimp only at h
    split at h
    · cases h
    rename_i made
    cases h
    have free : fs.IsFree (directory.child name) := by simp [IsFree, node]
    exact ⟨directory, name, leads, rfl, .inr ⟨free, make_eq_ok made⟩⟩
  | some n =>
    cases n with
    | directory => cases h
    | device =>
      simp only [if_true] at h
      split at h <;> cases h
      exact ⟨directory, name, leads, rfl, .inl ⟨node, rfl⟩⟩
    | file contents =>
      simp only [reduceCtorEq, if_false] at h
      split at h <;> cases h
      have free : fs.IsFree (directory.child name) := by simp [IsFree, node]
      exact ⟨directory, name, leads, rfl, .inr ⟨free, rfl⟩⟩

/-- A place that takes one text takes any. -/
theorem write?_isSome {contents : Contents} (h : (fs.write? place contents).isSome)
    (contents' : Contents) : (fs.write? place contents').isSome := by
  unfold write? at h ⊢
  split at h
  · rfl
  · cases h

/-- What is written to a file that was opened is what is then read there. -/
theorem openForReading_write? {p : Path} {fs₁ fs₂ : Files} {contents : Contents}
    (opened : fs.openForWriting p = .ok (place, fs₁))
    (written : fs₁.write? place contents = some fs₂) :
    fs₂.openForReading p = .ok (.file contents) := by
  obtain ⟨directory, name, leads, rfl, ⟨device, rfl⟩ | ⟨free, rfl⟩⟩ := openForWriting_eq_ok opened
  · rw [write?, device] at written
    cases written
  · have empty : (fs.put (directory.child name) (.file [])).node? (directory.child name) =
        some (.file []) := node?_put_self free.ne_root _
    rw [write?, empty] at written
    cases written
    have still : (fs.put (directory.child name) (.file [])).IsFree (directory.child name) := by
      rw [IsFree, empty]
      decide
    exact ((leads.put free _).put still _).openForReading (node?_put_self free.ne_root _)

end Files

namespace Settings

open Files

/-- A file can be made at the path, or one is there to be opened: the directories it is to be in
can be made, and then the path leads to something that takes whatever is written to it. -/
def Writable (fs : Files) (p : Path) : Prop :=
  (prepare fs p).1 = .ok () ∧ ∃ place fs₁, (prepare fs p).2.openForWriting p = .ok (place, fs₁) ∧
    ∀ contents, (fs₁.write? place contents).isSome

theorem write_of_opened (s : Settings) {fs fs₁ fs₂ : Files} {p : Path} {place : Place}
    (made : (prepare fs p).1 = .ok ())
    (opened : (prepare fs p).2.openForWriting p = .ok (place, fs₁))
    (written : fs₁.write? place (Symbol.ofString s.fileText) = some fs₂) :
    s.write fs p = (.ok (), fs₂) := by
  rcases hp : prepare fs p with ⟨_ | _, fs'⟩
  · rw [hp] at made
    cases made
  · rw [hp] at opened
    simp only [write, hp, opened, written]

/-- Writing succeeds at the paths that are writable, whatever is written. -/
theorem write_ok_iff (s : Settings) (fs : Files) (p : Path) :
    (s.write fs p).1 = .ok () ↔ Writable fs p := by
  constructor
  · intro done
    unfold write at done
    split at done
    · cases done
    rename_i made
    split at done
    · cases done
    rename_i opened
    split at done
    · cases done
    rename_i written
    rw [Writable, made]
    exact ⟨rfl, _, _, opened, write?_isSome (Option.isSome_of_eq_some written)⟩
  · rintro ⟨made, place, fs₁, opened, taken⟩
    obtain ⟨fs₂, written⟩ := Option.isSome_iff_exists.1 (taken (Symbol.ofString s.fileText))
    rw [s.write_of_opened made opened written]

theorem ofFile?_fileText (s : Settings) : ofFile? (Symbol.ofString s.fileText) = some s :=
  keeps.pretty s

/-- What was written is read. -/
theorem read_write (s : Settings) {fs : Files} {p : Path} (h : Writable fs p) :
    ∃ fs', s.write fs p = (.ok (), fs') ∧ read fs' p = .ok s := by
  obtain ⟨made, place, fs₁, opened, taken⟩ := h
  obtain ⟨fs₂, written⟩ := Option.isSome_iff_exists.1 (taken (Symbol.ofString s.fileText))
  refine ⟨fs₂, s.write_of_opened made opened written, ?_⟩
  rw [read, openForReading_write? opened written]
  simp only [ofFile?_fileText]

/-- Settings survive a write and a read of any path that takes a file, the configurations and the
limits of a device survive their compact texts, and what any text was accepted as survives being
written anew, in both forms. -/
theorem survives_encoding :
    (∀ (s : Settings) (fs : Files) (p : Path), ((s.write fs p).1 = .ok () ↔ Writable fs p) ∧
      (Writable fs p → ∃ fs', s.write fs p = (.ok (), fs') ∧ read fs' p = .ok s)) ∧
    (∀ v : ConfigValue, (Json.ofText? v.toJson.compact).bind ConfigValue.ofJson? = some v) ∧
    (∀ l : Limits, (Json.ofText? l.toJson.compact).bind Limits.ofJson? = some l) ∧
    (∀ (text : List Symbol) (s : Settings), (Json.ofSymbols? text).bind ofJson? = some s →
      (Json.ofText? s.toJson.pretty).bind ofJson? = some s ∧
      (Json.ofText? s.toJson.compact).bind ofJson? = some s) ∧
    (∀ (text : List Symbol) (v : ConfigValue),
      (Json.ofSymbols? text).bind ConfigValue.ofJson? = some v →
      (Json.ofText? v.toJson.pretty).bind ConfigValue.ofJson? = some v ∧
      (Json.ofText? v.toJson.compact).bind ConfigValue.ofJson? = some v) ∧
    ∀ (text : List Symbol) (l : Limits), (Json.ofSymbols? text).bind Limits.ofJson? = some l →
      (Json.ofText? l.toJson.pretty).bind Limits.ofJson? = some l ∧
      (Json.ofText? l.toJson.compact).bind Limits.ofJson? = some l := by
  refine ⟨fun s fs p => ⟨s.write_ok_iff fs p, s.read_write⟩, ConfigValue.keeps.compact,
    Limits.keeps.compact, ?_, ?_, ?_⟩
  · exact fun _ s _ => ⟨keeps.pretty s, keeps.compact s⟩
  · exact fun _ v _ => ⟨ConfigValue.keeps.pretty v, ConfigValue.keeps.compact v⟩
  · exact fun _ l _ => ⟨Limits.keeps.pretty l, Limits.keeps.compact l⟩

/-- A file in a directory that is still to be made, a file with one member, and a carried
duration. -/
theorem survives_encoding_fresh :
    (∃ fs', write { device := some "\x22\x5c\n", limitMsec := 2000 } {} ⟨"conf/settings.json"⟩ =
        (.ok (), fs') ∧
      read fs' ⟨"conf/settings.json"⟩ = .ok { device := some "\x22\x5c\n", limitMsec := 2000 }) ∧
    (Json.ofText? (toJson { limitSamples := 5 }).pretty).bind ofJson? =
      some { limitSamples := 5 } ∧
    (Json.ofText? (ConfigValue.limitMsec 250).toJson.pretty).bind ConfigValue.ofJson? =
      some (.limitMsec 250) ∧
    (Json.ofText? (Limits.toJson { time := Duration.ofParts? 2 0 }).pretty).bind Limits.ofJson? =
      some { time := Duration.ofParts? 2 0 } := by
  obtain ⟨file, -, -, settings, values, limits⟩ := survives_encoding
  refine ⟨(file _ _ _).2 ((file { device := some "\x22\x5c\n", limitMsec := 2000 } _ _).1.1 rfl),
    ?_, ?_, ?_⟩
  · exact (settings (Symbol.ofString "\x7b \x22limit_samples\x22: 5 \x7d") _ (by decide +kernel)).1
  · exact (values (Symbol.ofString "\x7b\x22LimitMsec\x22:250\x7d") _ (by decide +kernel)).1
  · exact (limits (Symbol.ofString "[[1,1000000000]]") _ (by decide +kernel)).1

end Settings

end Multimeter
