import Multimeter.Files.Path

/-!
# Paths and their parents

The pieces of a text and the text of pieces are each other's inverse, so a path is its parent, a
slash, pieces that name nothing and a last name.

## Main results

* `Path.split_unsplit`, `Path.unsplit_split`: splitting at slashes loses nothing.
* `Path.parent?_cases`: what the parent of a path is.
-/

namespace Multimeter.Path

variable {c : Char} {cs piece : List Char} {pieces more : List (List Char)}

/-! ## Splitting -/

@[simp] theorem split_ne_nil (cs : List Char) : split cs ≠ [] := by
  cases cs with
  | nil => simp [split]
  | cons c cs =>
    unfold split
    split
    · simp
    · split <;> simp

theorem split_cons_slash : split ('/' :: cs) = [] :: split cs := by
  obtain ⟨piece, pieces, h⟩ := List.exists_cons_of_ne_nil (split_ne_nil cs)
  simp [split, h]

theorem split_cons_of_ne (ne : c ≠ '/') (h : split cs = piece :: pieces) :
    split (c :: cs) = (c :: piece) :: pieces := by
  simp [split, h, ne]

/-- No piece has a slash. -/
theorem slash_notMem_of_mem_split (mem : piece ∈ split cs) : '/' ∉ piece := by
  induction cs generalizing piece with
  | nil => simp_all [split]
  | cons c cs ih =>
    obtain ⟨first, rest, h⟩ := List.exists_cons_of_ne_nil (split_ne_nil cs)
    rw [h] at ih
    by_cases slash : c = '/'
    · rw [slash, split_cons_slash, h, List.mem_cons] at mem
      obtain rfl | mem := mem
      · simp
      · exact ih mem
    · rw [split_cons_of_ne slash h, List.mem_cons] at mem
      obtain rfl | mem := mem
      · simpa [Ne.symm slash] using ih (List.mem_cons_self ..)
      · exact ih (List.mem_cons_of_mem _ mem)

/-! ## Joining -/

theorem unsplit_cons (ne : pieces ≠ []) :
    unsplit (piece :: pieces) = piece ++ '/' :: unsplit pieces := by
  obtain ⟨next, more, rfl⟩ := List.exists_cons_of_ne_nil ne
  rfl

theorem unsplit_append (ne : pieces ≠ []) (ne' : more ≠ []) :
    unsplit (pieces ++ more) = unsplit pieces ++ '/' :: unsplit more := by
  induction pieces with
  | nil => contradiction
  | cons piece pieces ih =>
    rw [List.cons_append, unsplit_cons (by simp [ne'])]
    by_cases last : pieces = []
    · simp [last, unsplit]
    · rw [ih last, unsplit_cons last, List.append_assoc, List.cons_append]

theorem unsplit_split (cs : List Char) : unsplit (split cs) = cs := by
  induction cs with
  | nil => rfl
  | cons c cs ih =>
    by_cases slash : c = '/'
    · rw [slash, split_cons_slash, unsplit_cons (split_ne_nil cs), ih, List.nil_append]
    · obtain ⟨piece, pieces, h⟩ := List.exists_cons_of_ne_nil (split_ne_nil cs)
      rw [split_cons_of_ne slash h]
      rw [h] at ih
      by_cases last : pieces = []
      · subst last
        exact congrArg (c :: ·) ih
      · rw [unsplit_cons last] at ih ⊢
        rw [List.cons_append, ih]

theorem split_append_slash (noSlash : '/' ∉ piece) :
    split (piece ++ '/' :: cs) = piece :: split cs := by
  induction piece with
  | nil => exact split_cons_slash
  | cons c piece ih =>
    simp only [List.mem_cons, not_or] at noSlash
    exact split_cons_of_ne (Ne.symm noSlash.1) (ih noSlash.2)

theorem split_of_no_slash (noSlash : '/' ∉ piece) : split piece = [piece] := by
  induction piece with
  | nil => rfl
  | cons c piece ih =>
    simp only [List.mem_cons, not_or] at noSlash
    exact split_cons_of_ne (Ne.symm noSlash.1) (ih noSlash.2)

theorem split_unsplit (ne : pieces ≠ []) (noSlash : ∀ piece ∈ pieces, '/' ∉ piece) :
    split (unsplit pieces) = pieces := by
  induction pieces with
  | nil => contradiction
  | cons piece pieces ih =>
    obtain ⟨here, later⟩ := List.forall_mem_cons.1 noSlash
    by_cases last : pieces = []
    · subst last
      exact split_of_no_slash here
    · rw [unsplit_cons last, split_append_slash here, ih last later]

/-! ## The names of a path -/

/-- The pieces that are not empty. -/
def namesOf (pieces : List (List Char)) : List String :=
  (pieces.filter (!·.isEmpty)).map String.ofList

theorem names_eq (p : Path) : p.names = namesOf (split p.text.toList) := rfl

@[simp] theorem namesOf_append (pieces more : List (List Char)) :
    namesOf (pieces ++ more) = namesOf pieces ++ namesOf more := by
  simp [namesOf]

theorem namesOf_singleton (ne : piece ≠ []) : namesOf [piece] = [String.ofList piece] := by
  simp [namesOf, ne]

/-- A path that does not end in a slash ends in its last name. -/
theorem exists_last {p : Path} (ne : p.text ≠ "") (h : p.endsInSlash = false) :
    ∃ before last, split p.text.toList = before ++ [last] ∧ last ≠ [] ∧
      p.names = namesOf before ++ [String.ofList last] := by
  obtain ⟨before, last, hs⟩ : ∃ before last, split p.text.toList = before ++ [last] :=
    ⟨_, _, (List.dropLast_concat_getLast (split_ne_nil p.text.toList)).symm⟩
  have named : last ≠ [] := by
    rintro rfl
    have text : p.text.toList = unsplit (before ++ [[]]) := by rw [← hs, unsplit_split]
    by_cases first : before = []
    · refine ne (String.toList_inj.1 ?_)
      simpa [first, unsplit] using text
    · rw [unsplit_append first (by simp)] at text
      simp [endsInSlash, text, unsplit] at h
  exact ⟨before, last, hs, named, by rw [names_eq, hs, namesOf_append, namesOf_singleton named]⟩

/-! ## The parent -/

/-- A piece that names nothing, where there are others before it. -/
def IsIdle (piece : List Char) : Prop := piece = [] ∨ piece = ['.']

/-- What is dropped names nothing, and what is left ends in a name, or nothing is left. -/
theorem dropTrailing_spec (before : List (List Char)) :
    ∃ dropped, before = dropped ++ dropTrailing before ∧ (∀ piece ∈ dropped, IsIdle piece) ∧
      ∀ piece rest, dropTrailing before = piece :: rest → piece ≠ [] := by
  induction before with
  | nil => exact ⟨[], by simp [dropTrailing]⟩
  | cons piece before ih =>
    unfold dropTrailing
    by_cases name : isName before.isEmpty piece
    · refine ⟨[], by simp [name], by simp, ?_⟩
      rintro first rest h rfl
      rw [if_pos name, List.cons.injEq] at h
      simp [isName, h.1] at name
    · obtain ⟨dropped, eq, idle, named⟩ := ih
      rw [if_neg name]
      refine ⟨piece :: dropped, congrArg (piece :: ·) eq, ?_, named⟩
      refine List.forall_mem_cons.2 ⟨?_, idle⟩
      unfold isName at name
      unfold IsIdle
      grind

/-- The names of idle pieces say to stay. -/
theorem eq_dot_of_mem_namesOf {name : String} (idle : ∀ piece ∈ pieces, IsIdle piece)
    (mem : name ∈ namesOf pieces) : name = "." := by
  simp only [namesOf, List.mem_map, List.mem_filter, Bool.not_eq_true',
    List.isEmpty_eq_false_iff] at mem
  obtain ⟨piece, ⟨mem, ne⟩, rfl⟩ := mem
  rw [(idle piece mem).resolve_left ne]

/-- The path goes on from the other one to a last name in the same directory. -/
structure IsParent (parent p : Path) : Prop where
  ne : parent.text ≠ ""
  text : ∃ rest, p.text.toList = parent.text.toList ++ '/' :: rest
  names : ∃ names name idle, parent.names = names ++ [name] ∧
    p.names.dropLast = names ++ [name] ++ idle ∧ ∀ name ∈ idle, name = "."

theorem isParent_unsplit {p : Path} {kept idle : List (List Char)} {last : List Char}
    (hs : split p.text.toList = kept ++ [piece] ++ idle ++ [last]) (here : piece ≠ [])
    (named : last ≠ []) (idles : ∀ piece ∈ idle, IsIdle piece) :
    IsParent ⟨String.ofList (unsplit (kept ++ [piece]))⟩ p := by
  have back : split (unsplit (kept ++ [piece])) = kept ++ [piece] := by
    refine split_unsplit (by simp) fun other mem => ?_
    have mem : other ∈ split p.text.toList := by
      rw [hs]
      exact List.mem_append_left _ (List.mem_append_left _ mem)
    exact slash_notMem_of_mem_split mem
  constructor
  · intro empty
    rw [String.ofList_eq_empty_iff.1 empty] at back
    have last := congrArg List.getLast? back
    simp only [List.getLast?_concat, split, List.getLast?_singleton, Option.some.injEq] at last
    exact here last.symm
  · refine ⟨unsplit (idle ++ [last]), ?_⟩
    rw [String.toList_ofList, ← unsplit_append (by simp) (by simp), ← unsplit_split p.text.toList,
      hs, List.append_assoc _ idle]
  · refine ⟨namesOf kept, String.ofList piece, namesOf idle, ?_, ?_, ?_⟩
    · rw [names_eq, String.toList_ofList, back, namesOf_append, namesOf_singleton here]
    · rw [names_eq, hs, namesOf_append, namesOf_singleton named, List.dropLast_concat,
        namesOf_append, namesOf_append, namesOf_singleton here]
    · exact fun _ => eq_dot_of_mem_namesOf idles

/-- The parent of a path to a name is the root or the empty path if nothing before the name counts
as one, and else it is the text up to the name before. -/
theorem parent?_cases {p : Path} (ne : p.text ≠ "") (noSlash : p.endsInSlash = false)
    (notDot : p.names.getLast? ≠ some ".") :
    ∃ parent, p.parent? = some parent ∧
      (parent = ⟨"/"⟩ ∨ parent = ⟨""⟩ ∨ IsParent parent p) := by
  obtain ⟨before, last, hs, named, names⟩ := exists_last ne noSlash
  have stops : dropTrailing (split p.text.toList).reverse = last :: before.reverse := by
    have notDot : last ≠ ['.'] := by
      rintro rfl
      exact notDot (by rw [names, List.getLast?_concat])
    simp [hs, dropTrailing, isName, named, notDot]
  unfold parent?
  rw [stops]
  obtain ⟨dropped, eq, idle, kept⟩ := dropTrailing_spec before.reverse
  dsimp only
  split
  · refine ⟨_, rfl, ?_⟩
    cases p.isAbsolute <;> simp
  · rename_i some
    obtain ⟨piece, pieces, h⟩ := List.exists_cons_of_ne_nil some
    rw [h] at eq ⊢
    replace eq : before = pieces.reverse ++ [piece] ++ dropped.reverse := by
      simpa using congrArg List.reverse eq
    rw [eq] at hs
    rw [List.reverse_cons]
    exact ⟨_, rfl, .inr (.inr (isParent_unsplit hs (kept _ _ h) named
      fun piece mem => idle piece (List.mem_reverse.1 mem)))⟩

end Multimeter.Path
