/-!
# A directory of files

The files of one directory, by name and with their bytes. A relative path leads to a
file if nothing but the directory itself is named on the way; a path that is empty,
begins at the root, ends in a slash or leads out of the directory leads to none.
-/

set_option autoImplicit false

namespace NodeLink

/-- The files of a directory. -/
structure Directory where
  /-- Names and contents. Of two entries of one name the first counts. -/
  files : List (String × ByteArray) := []

namespace Directory

/-- The parts of a path between its slashes. -/
def parts : List Char → List (List Char)
  | [] => [[]]
  | c :: rest =>
    if c = '/' then [] :: parts rest
    else
      match parts rest with
      | [] => [[c]]
      | p :: ps => (c :: p) :: ps

/-- The name at the end of parts that all stay in the directory. -/
def lastName? : List (List Char) → Option (List Char)
  | [] => none
  | [name] => if name = [] ∨ name = ['.'] ∨ name = ['.', '.'] then none else some name
  | part :: rest => if part = [] ∨ part = ['.'] then lastName? rest else none

/-- The name of the file that a path leads to. -/
def fileName? (path : String) : Option String :=
  match parts path.toList with
  | [] :: _ => none
  | ps => (lastName? ps).map String.ofList

/-- The contents of the file that a path leads to. -/
def read? (d : Directory) (path : String) : Option ByteArray :=
  (fileName? path).bind fun name => d.files.lookup name

/-- The directory after a file was written, unless the path leads to none. -/
def write? (d : Directory) (path : String) (contents : ByteArray) : Option Directory :=
  (fileName? path).map fun name => ⟨(name, contents) :: d.files.filter (·.1 != name)⟩

/-- Taking one name out of a list does not disturb the look-up of another. -/
theorem lookup_filter_ne (files : List (String × ByteArray)) {name other : String}
    (differ : other ≠ name) : (files.filter (·.1 != name)).lookup other = files.lookup other := by
  induction files with
  | nil => rfl
  | cons f rest ih =>
    obtain ⟨k, contents⟩ := f
    by_cases hk : k = name
    · have : (other == k) = false := by simpa [hk] using differ
      simp [hk, ih, List.lookup_cons, beq_eq_false_iff_ne.2 differ]
    · simp [hk, List.lookup_cons, ih]

/-- What was written is read back. -/
theorem read?_of_write? {d e : Directory} {path : String} {contents : ByteArray}
    (h : d.write? path contents = some e) : e.read? path = some contents := by
  unfold write? at h
  obtain ⟨name, hname, rfl⟩ := Option.map_eq_some_iff.1 h
  simp [read?, hname]

/-- Files of other names are as they were. -/
theorem read?_of_write?_other {d e : Directory} {path other : String} {contents : ByteArray}
    (h : d.write? path contents = some e) (differ : fileName? other ≠ fileName? path) :
    e.read? other = d.read? other := by
  unfold write? at h
  obtain ⟨name, hname, rfl⟩ := Option.map_eq_some_iff.1 h
  unfold read?
  cases hother : fileName? other with
  | none => rfl
  | some k =>
    have hk : k ≠ name := fun same => differ (by rw [hother, hname, same])
    simp [List.lookup_cons, beq_eq_false_iff_ne.2 hk, lookup_filter_ne d.files hk]

end Directory

end NodeLink
