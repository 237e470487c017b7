import Mathlib.Logic.Function.Iterate
import Multimeter.Proofs.Paths
import Multimeter.Proofs.SettingsFile

/-!
# Loading the settings

Loading writes the settings back to the path they were read from. Where a path leads to a file,
the directory that the file is to be in is there already, so a load after one whose settings were
saved makes nothing and writes what it has read.

## Main definitions

* `Settings.IsMalformed`: what is found at a path is no settings file.
* `Settings.IsSaved`: the settings are the last thing that was put where a path leads.

## Main results

* `Settings.IsSaved.load`: a load where the settings were saved changes nothing.
* `Settings.load_of_readOnly`: a load where they cannot be saved changes nothing either.
* `Settings.load_safe`: what a load returns and what it does to the files.
-/

namespace Multimeter

open Text (Symbol)

namespace Files

variable {fs : Files} {place directory : Place} {p : Path} {name : String}

/-! ## Directories that are there -/

theorem ensureDirectory_of_enter {q : Place} (followed : fs.follow p = .ok (q, name))
    (entered : fs.enter q name = .ok directory) : fs.ensureDirectory p = (.ok (), fs) := by
  by_cases dot : isDot name
  · simp [ensureDirectory, makeDirectory, isDirectory, openForReading, followed, dot, bind,
      Except.bind]
  · have there : fs.child? q name = .ok (some .directory) := by
      simp only [isDot, Bool.or_eq_true, beq_iff_eq, not_or] at dot
      simp only [enter, if_neg dot.1, if_neg dot.2] at entered
      split at entered <;> first | assumption | cases entered
    simp [ensureDirectory, makeDirectory, isDirectory, openForReading, followed, dot, there, bind,
      Except.bind]

theorem follow_eq_ok {found : Place × String} :
    fs.follow p = .ok found ↔
      '\x00' ∉ p.text.toList ∧ p.text ≠ "" ∧ p.text.utf8ByteSize ≤ longestPath ∧
        p.names.dropLast.foldlM fs.enter (fs.start p) = .ok found.1 ∧
        p.names.getLast?.getD "." = found.2 := by
  obtain ⟨directory, name⟩ := found
  unfold follow
  by_cases nul : '\x00' ∈ p.text.toList
  · simp [nul]
  by_cases empty : p.text = ""
  · simp [empty]
  by_cases long : longestPath < p.text.utf8ByteSize
  · simp [nul, empty, long, Nat.not_le.2 long]
  simp only [List.contains_eq_mem, nul, decide_false, Bool.false_eq_true, if_false,
    String.isEmpty_iff, empty, long, not_false_eq_true, ne_eq, true_and, Nat.not_lt.1 long]
  cases walked : p.names.dropLast.foldlM fs.enter (fs.start p) with
  | error e => simp [bind, Except.bind]
  | ok q => simp [bind, Except.bind]

theorem bind_eq_ok {α β : Type} {x : Except FileError α} {f : α → Except FileError β} {b : β}
    (h : (x >>= f) = .ok b) : ∃ a, x = .ok a ∧ f a = .ok b := by
  cases x with
  | error e => cases h
  | ok a => exact ⟨a, rfl, h⟩

/-- Where a path leads on from its parent, it goes through a directory there. -/
theorem ensureDirectory_of_isParent {parent : Path} {found : Place × String}
    (h : fs.follow p = .ok found) (hp : parent.IsParent p) :
    fs.ensureDirectory parent = (.ok (), fs) := by
  obtain ⟨noNul, -, short, walked, -⟩ := follow_eq_ok.1 h
  obtain ⟨ne, ⟨rest, text⟩, names, name, idle, here, all, -⟩ := hp
  have start : fs.start parent = fs.start p := by
    obtain ⟨c, cs, hc⟩ : ∃ c cs, parent.text.toList = c :: cs :=
      List.exists_cons_of_ne_nil (by simpa using ne)
    simp [Files.start, Path.isAbsolute, text, hc]
  have bytes : parent.text.utf8ByteSize ≤ longestPath := by
    have whole : p.text = parent.text ++ String.ofList ('/' :: rest) := by
      rw [← String.ofList_toList (s := p.text), text, String.ofList_append, String.ofList_toList]
    rw [whole, String.utf8ByteSize_append] at short
    omega
  rw [all, List.append_assoc, List.foldlM_append] at walked
  obtain ⟨q, first, walked⟩ := bind_eq_ok walked
  rw [List.foldlM_append] at walked
  obtain ⟨next, entered, walked⟩ := bind_eq_ok walked
  have followed : fs.follow parent = .ok (q, name) := by
    refine follow_eq_ok.2 ⟨fun nul => noNul ?_, ne, bytes, ?_, ?_⟩
    · rw [text]
      exact List.mem_append_left _ nul
    · rw [here, List.dropLast_concat, start, first]
    · rw [here, List.getLast?_concat, Option.getD_some]
  refine ensureDirectory_of_enter followed (?_ : fs.enter q name = .ok next)
  obtain ⟨next', entered, done⟩ := bind_eq_ok entered
  rw [entered]
  exact done

/-- Where a path leads to a name, the directories before the name are there. -/
theorem LeadsTo.ensureDirectories (h : fs.LeadsTo p directory name) {parent : Path}
    (hp : p.parent? = some parent) : fs.ensureDirectories parent = (.ok (), fs) := by
  obtain ⟨-, ne, -, -, last⟩ := follow_eq_ok.1 h.follow
  have notDot : p.names.getLast? ≠ some "." := by
    intro dot
    rw [dot, Option.getD_some] at last
    obtain rfl : "." = name := last
    cases h.named
  obtain ⟨parent', hp', cases⟩ := Path.parent?_cases ne h.no_slash notDot
  obtain rfl : parent = parent' := Option.some.inj (hp.symm.trans hp')
  have ensured (there : parent.text ≠ "")
      (done : fs.ensureDirectory parent = (.ok (), fs)) :
      fs.ensureDirectories parent = (.ok (), fs) := by
    rw [Files.ensureDirectories, if_neg (by simpa using there), done]
  obtain rfl | rfl | ahead := cases
  · have followed : fs.follow ⟨"/"⟩ = .ok (.root, ".") := rfl
    have stays : fs.enter .root "." = .ok .root := rfl
    exact ensured (by decide) (ensureDirectory_of_enter followed stays)
  · rfl
  · exact ensured ahead.ne (ensureDirectory_of_isParent h.follow ahead)

/-! ## Putting a file twice -/

theorem put_put (fs : Files) (place : Place) (n n' : Node) :
    (fs.put place n).put place n' = fs.put place n' := by
  simp [put, List.filter_filter]

theorem LeadsTo.openForWriting (h : fs.LeadsTo p directory name) {contents : Contents}
    (file : fs.node? (directory.child name) = some (.file contents))
    (writable : fs.isReadOnly (directory.child name) = false) :
    fs.openForWriting p =
      .ok (directory.child name, fs.put (directory.child name) (.file [])) := by
  have child := child?_eq_ok.2 ⟨h.short, file⟩
  simp [Files.openForWriting, h.follow, h.named, h.no_slash, child, writable, bind, Except.bind]

end Files

namespace Settings

open Files

variable {s : Settings} {fs fs' : Files} {p : Path}

/-! ## Reading -/

/-- What is found at the path is no settings file. -/
def IsMalformed (n : Node) : Prop := ∀ contents, n = .file contents → ofFile? contents = none

theorem read_eq_ok_iff :
    read fs p = .ok s ↔ fs.openForReading p = .error .notFound ∧ s = {} ∨
      ∃ contents, fs.openForReading p = .ok (.file contents) ∧ ofFile? contents = some s := by
  unfold read
  split <;> grind

theorem read_eq_error_iff {e : SettingsError} :
    read fs p = .error e ↔
      (∃ cause, cause ≠ .notFound ∧ fs.openForReading p = .error cause ∧ e = .cannotRead p cause) ∨
      (∃ n, fs.openForReading p = .ok n ∧ IsMalformed n) ∧ e = .malformed p := by
  unfold read IsMalformed
  split <;> grind

/-! ## Writing where the settings are already -/

theorem prepare_of_leadsTo {directory : Place} {name : String} (h : fs.LeadsTo p directory name) :
    prepare fs p = (.ok (), fs) := by
  cases hp : p.parent? with
  | none => simp only [prepare, hp]
  | some parent => simp only [prepare, hp, h.ensureDirectories hp]

/-- The settings are the last thing that was put where the path leads. -/
def IsSaved (s : Settings) (p : Path) (fs' : Files) : Prop :=
  ∃ fs directory name, Files.LeadsTo fs p directory name ∧ fs.IsFree (directory.child name) ∧
    fs' = fs.put (directory.child name) (.file (Symbol.ofString s.fileText))

theorem isSaved_write (h : s.write fs p = (.ok (), fs')) : s.IsSaved p fs' := by
  unfold write at h
  split at h
  · cases h
  split at h
  · cases h
  rename_i opened
  split at h
  · cases h
  rename_i written
  obtain rfl := (Prod.mk.inj h).2
  obtain ⟨directory, name, leads, rfl, ⟨device, rfl⟩ | ⟨free, rfl⟩⟩ := openForWriting_eq_ok opened
  · simp only [write?, device, reduceCtorEq] at written
  · rw [write?, node?_put_self free.ne_root, Option.some.injEq, put_put] at written
    exact ⟨_, directory, name, leads, free, written.symm⟩

namespace IsSaved

theorem openForReading (h : s.IsSaved p fs) :
    fs.openForReading p = .ok (.file (Symbol.ofString s.fileText)) := by
  obtain ⟨fs₁, directory, name, leads, free, rfl⟩ := h
  exact (leads.put free _).openForReading (node?_put_self free.ne_root _)

/-- The file is emptied and filled with what was in it. -/
theorem write (h : s.IsSaved p fs) : s.write fs p = (.ok (), fs) := by
  obtain ⟨fs₁, directory, name, leads, free, rfl⟩ := h
  generalize hn : Node.file (Symbol.ofString s.fileText) = n
  have there : (fs₁.put (directory.child name) n).node? (directory.child name) = some n :=
    node?_put_self free.ne_root n
  have leads : Files.LeadsTo (fs₁.put (directory.child name) n) p directory name := leads.put free n
  have prepared := prepare_of_leadsTo leads
  have opened : (prepare (fs₁.put (directory.child name) n) p).2.openForWriting p =
      .ok (directory.child name, fs₁.put (directory.child name) (.file [])) := by
    rw [prepared, leads.openForWriting (there.trans (congrArg some hn.symm)) (by simp), put_put]
  refine s.write_of_opened (congrArg Prod.fst prepared) opened ?_
  rw [write?, node?_put_self free.ne_root, hn]
  simp only [put_put]

theorem load (h : s.IsSaved p fs) : load fs p = (.ok s, [], fs) := by
  have back : read fs p = .ok s := read_eq_ok_iff.2 (.inr ⟨_, h.openForReading, s.ofFile?_fileText⟩)
  simp only [Settings.load, back, save, h.write]

end IsSaved

/-! ## Loading -/

/-- A settings file that may only be read is read, and it stays as it is. -/
theorem load_of_readOnly {directory : Place} {name : String} {contents : Contents}
    (leads : fs.LeadsTo p directory name)
    (file : fs.node? (directory.child name) = some (.file contents))
    (readOnly : fs.isReadOnly (directory.child name)) (means : ofFile? contents = some s) :
    load fs p = (.ok s,
      [.saveFailed p.text (SettingsError.cannotCreate p .permissionDenied).message], fs) := by
  have found : read fs p = .ok s := read_eq_ok_iff.2 (.inr ⟨_, leads.openForReading file, means⟩)
  have child := child?_eq_ok.2 ⟨leads.short, file⟩
  have refused : fs.openForWriting p = .error .permissionDenied := by
    simp [Files.openForWriting, leads.follow, leads.named, leads.no_slash, child, readOnly, bind,
      Except.bind]
  simp only [load, found, save, write, prepare_of_leadsTo leads, refused]

example :
    let text := Symbol.ofString "\x7b\x22limit_samples\x22: 5\x7d"
    let fs := (({} : Files).put (.ofNames ["s.json"]) (.file text)).protect (.ofNames ["s.json"])
    (load fs ⟨"s.json"⟩).1.toOption = some { limitSamples := 5 } ∧ (load fs ⟨"s.json"⟩).2 =
      ([.saveFailed "s.json" "Could not open daemon settings file for writing at s.json"], fs) := by
  decide +kernel

theorem load_fst (fs : Files) (p : Path) : (load fs p).1 = read fs p := by
  unfold load
  split <;> simp_all

/-- Loading returns what the file means, or the default settings if there is none, and it fails if
the file cannot be opened or is no settings file; then no file is made or changed. When the settings
could be saved, the file holds their text and nothing else, and no further load changes anything or
returns anything else. When they could not, that is noted, and the settings are the same. -/
theorem load_safe (fs : Files) (p : Path) :
    (∀ s, (load fs p).1 = .ok s ↔ fs.openForReading p = .error .notFound ∧ s = {} ∨
      ∃ contents, fs.openForReading p = .ok (.file contents) ∧ ofFile? contents = some s) ∧
    (∀ e, (load fs p).1 = .error e ↔
      (∃ cause, cause ≠ .notFound ∧ fs.openForReading p = .error cause ∧ e = .cannotRead p cause) ∨
      (∃ n, fs.openForReading p = .ok n ∧ IsMalformed n) ∧ e = .malformed p) ∧
    (∀ e, (load fs p).1 = .error e → (load fs p).2 = ([], fs)) ∧
    ∀ s, (load fs p).1 = .ok s → (load fs p).2.2 = (s.write fs p).2 ∧
      ((s.write fs p).1 = .ok () → ∃ fs', (load fs p).2 = ([], fs') ∧
        fs'.openForReading p = .ok (.file (Symbol.ofString s.toJson.pretty)) ∧
        ∀ n, load ((fun fs => (load fs p).2.2)^[n] fs') p = (.ok s, [], fs')) ∧
      ∀ e, (s.write fs p).1 = .error e → (load fs p).2.1 = [.saveFailed p.text e.message] := by
  rw [load_fst]
  refine ⟨fun s => read_eq_ok_iff, fun e => read_eq_error_iff, fun e h => ?_, fun s h => ?_⟩
  · simp only [load, h]
  have loaded : (load fs p).2 = s.save fs p := by simp only [load, h]
  rw [loaded, save]
  rcases written : s.write fs p with ⟨_ | _, fs'⟩
  · simp
  · have saved := isSaved_write written
    have again := saved.load
    refine ⟨rfl, fun _ => ⟨fs', rfl, saved.openForReading, fun n => ?_⟩, by simp⟩
    have fixed : (fun fs => (load fs p).2.2)^[n] fs' = fs' :=
      Function.iterate_fixed (by rw [again]) n
    rw [fixed, again]

/-- The default settings also replace a file that the path only leads to once its directories are
made. -/
example :
    (load (({} : Files).put (.ofNames ["s.json"])
      (.file (Symbol.ofString "\x7b\x22limit_samples\x22: 5\x7d"))) ⟨"new/../s.json"⟩).1 = .ok {} ∧
    (load (({} : Files).put (.ofNames ["s.json"])
      (.file (Symbol.ofString "\x7b\x22limit_samples\x22: 5\x7d"))) ⟨"new/../s.json"⟩).2.2.text?
        ⟨"s.json"⟩ = some (fileText {}) :=
  ⟨rfl, by decide +kernel⟩

/-- A file with one known member, and one that ends too early. -/
theorem load_safe_reformatted :
    (∃ fs', load (({} : Files).put (.ofNames ["s.json"])
            (.file (Symbol.ofString "\x7b \x22x\x22: [1], \x22limit_samples\x22: 5 \x7d")))
          ⟨"s.json"⟩ = (.ok { limitSamples := 5 }, [], fs') ∧
      fs'.openForReading ⟨"s.json"⟩ =
        .ok (.file (Symbol.ofString (toJson { limitSamples := 5 }).pretty)) ∧
      load fs' ⟨"s.json"⟩ = (.ok { limitSamples := 5 }, [], fs')) ∧
    load (({} : Files).put (.ofNames ["s.json"]) (.file (Symbol.ofString "\x7b"))) ⟨"s.json"⟩ =
      (.error (.malformed ⟨"s.json"⟩), [],
        ({} : Files).put (.ofNames ["s.json"]) (.file (Symbol.ofString "\x7b"))) := by
  constructor
  · obtain ⟨ok, -, -, after⟩ := load_safe (({} : Files).put (.ofNames ["s.json"])
      (.file (Symbol.ofString "\x7b \x22x\x22: [1], \x22limit_samples\x22: 5 \x7d"))) ⟨"s.json"⟩
    have loaded := (ok { limitSamples := 5 }).2 (.inr ⟨_, rfl, by decide +kernel⟩)
    obtain ⟨fs', rest, holds, again⟩ := (after _ loaded).2.1 rfl
    exact ⟨fs', Prod.ext loaded rest, holds, again 0⟩
  · obtain ⟨-, error, unchanged, -⟩ := load_safe
      (({} : Files).put (.ofNames ["s.json"]) (.file (Symbol.ofString "\x7b"))) ⟨"s.json"⟩
    have malformed : IsMalformed (.file (Symbol.ofString "\x7b")) := by
      rintro contents ⟨⟩
      decide +kernel
    have failed := (error (.malformed ⟨"s.json"⟩)).2 (.inr ⟨⟨_, rfl, malformed⟩, rfl⟩)
    exact Prod.ext failed (unchanged _ failed)

end Settings

end Multimeter
