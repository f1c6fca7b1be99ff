-- SUMMARY: File paths as text: components, joining, making relative, lexical cleaning, names and extensions.
import DocAtlas.Text.Basic

/-! # Paths

A path is a string read as a list of components. Repeated separators, trailing
separators and inner `.` components mean nothing; a leading `.` is kept. Two
paths are the same when their components are. Nothing here looks at a disk. -/

namespace DocAtlas.Path

open Text

inductive Component where
  | root
  | here
  | parent
  | name (text : List Char)
  deriving DecidableEq

/-! ## Components -/

/-- The component that a piece between separators stands for. -/
def piece? (piece : List Char) : Option Component :=
  if piece = [] ∨ piece = ['.'] then none
  else if piece = ['.', '.'] then some .parent
  else some (.name piece)

def isAbsolute (path : String) : Bool := path.toList.head? = some '/'

/-- The components of a path. -/
def parts (path : List Char) : List Component :=
  match path with
  | '/' :: rest => .root :: (splitOn '/' rest).filterMap piece?
  | _ =>
    match splitOn '/' path with
    | ['.'] :: pieces => .here :: pieces.filterMap piece?
    | pieces => pieces.filterMap piece?

def components (path : String) : List Component := parts path.toList

/-- The plain names among the components. -/
def names (path : String) : List (List Char) :=
  (components path).filterMap fun
    | .name text => some text
    | _ => none

/-- The plain names with a `/` between each two. -/
def toSlash (path : String) : String := String.ofList (joinWith '/' (names path))

/-! ## Joining and cutting -/

/-- Appends `path` to `base`; an absolute `path` replaces it. -/
def join (base path : String) : String :=
  if isAbsolute path then path
  else if base = "" ∨ base.toList.getLast? = some '/' then base ++ path
  else base ++ "/" ++ path

/-- Drops separators and `.` pieces at the front. -/
def trimFront (cs : List Char) : List Char :=
  joinWith '/' ((splitOn '/' cs).dropWhile fun piece => piece = [] || piece = ['.'])

/-- Drops separators and `.` pieces at the back. -/
def trimBack (cs : List Char) : List Char :=
  joinWith '/'
    ((splitOn '/' cs).reverse.dropWhile fun piece => piece = [] || piece = ['.']).reverse

/-- The first component of a path and the text after it. The flag says that the start of the path
is already behind. -/
def uncons (inside : Bool) (cs : List Char) : Option (Component × List Char) :=
  if inside then
    match trimFront cs with
    | [] => none
    | cs =>
      (piece? (cs.takeWhile (· ≠ '/'))).map fun c => (c, cs.dropWhile (· ≠ '/'))
  else
    match cs with
    | '/' :: rest => some (.root, rest)
    | _ =>
      match splitOn '/' cs with
      | ['.'] :: _ => some (.here, cs.drop 1)
      | _ =>
        match trimFront cs with
        | [] => none
        | cs =>
          (piece? (cs.takeWhile (· ≠ '/'))).map fun c => (c, cs.dropWhile (· ≠ '/'))

/-- The text after the given components of a path, `none` where the path has others. -/
def after (inside : Bool) : List Component → List Char → Option (Bool × List Char)
  | [], cs => some (inside, cs)
  | c :: comps, cs =>
    match uncons inside cs with
    | some (d, rest) => if c = d then after true comps rest else none
    | none => none

/-- A text without trailing separators and `.` pieces; the start of the path stays. -/
def trimEndOf (inside : Bool) (cs : List Char) : List Char :=
  if inside then trimBack (trimFront cs)
  else match cs with
    | '/' :: rest => '/' :: trimBack rest
    | '.' :: rest =>
      if rest = [] ∨ rest.head? = some '/' then '.' :: trimBack rest else trimBack cs
    | _ => trimBack cs

/-- The path below `base`, where it lies there. -/
def below? (base path : String) : Option String :=
  (after false (components base) path.toList).map fun (inside, cs) =>
    String.ofList (trimEndOf inside cs)

/-- The path below `base`, or the path itself when it lies elsewhere. -/
def relativeTo (base path : String) : String :=
  match below? base path with
  | some rest => rest
  | none => path

/-! ## Lexical cleaning -/

/-- A path without `.` and `..`: whether it starts at the root, and the names below that. -/
structure Clean where
  rooted : Bool
  names : List (List Char)
  deriving DecidableEq

def Clean.render (p : Clean) : String :=
  String.ofList ((if p.rooted then ['/'] else []) ++ joinWith '/' p.names)

/-- Takes one component; the names so far have the last one first. Nothing is left when `..`
climbs above the start. -/
def cleanStep (acc : Option (Bool × List (List Char))) (c : Component) :
    Option (Bool × List (List Char)) :=
  match acc, c with
  | none, _ => none
  | some (_, _), .root => some (true, [])
  | some acc, .here => some acc
  | some (_, []), .parent => none
  | some (rooted, _ :: names), .parent => some (rooted, names)
  | some (rooted, names), .name text => some (rooted, text :: names)

/-- Applies the `.` and `..` components. -/
def cleanParts (comps : List Component) : Option Clean :=
  (comps.foldl cleanStep (some (false, []))).map fun (rooted, names) => ⟨rooted, names.reverse⟩

/-- The path without `.` and `..`, where it does not climb above its start. -/
def clean (path : String) : Option String := (cleanParts (components path)).map Clean.render

/-! ## File names -/

/-- The last component, where it is a name. -/
def fileName? (path : String) : Option (List Char) :=
  match (components path).getLast? with
  | some (.name text) => some text
  | _ => none

/-- A file name cut at its last dot; a leading dot does not count. -/
def cutExtension (name : List Char) : List Char × Option (List Char) :=
  let ext := (name.reverse.takeWhile (· ≠ '.')).reverse
  let stem := (name.reverse.dropWhile (· ≠ '.')).drop 1 |>.reverse
  if '.' ∈ name ∧ stem ≠ [] then (stem, some ext) else (name, none)

def stem? (path : String) : Option (List Char) := (fileName? path).map fun n => (cutExtension n).1

def extension? (path : String) : Option (List Char) :=
  (fileName? path).bind fun n => (cutExtension n).2

/-- Whether the extension is one of the given lower-case ones, in any ASCII case. -/
def hasExtension (extensions : List String) (path : String) : Bool :=
  match extension? path with
  | some ext => extensions.any fun e => e.toList = lower ext
  | none => false

/-- The path without its last component; `none` for a root and for the empty path. -/
def parent? (path : String) : Option String :=
  match path.toList with
  | [] => none
  | '/' :: rest =>
    match trimBack rest with
    | [] => none
    | cs => some (String.ofList ('/' :: trimBack (cs.reverse.dropWhile (· ≠ '/')).reverse))
  | cs =>
    let body := trimEndOf false cs
    some (String.ofList (trimEndOf false (body.reverse.dropWhile (· ≠ '/')).reverse))

/-! ## The way up -/

theorem isPrefix_trimBack (cs : List Char) : trimBack cs <+: cs := by
  obtain ⟨back, hback⟩ := List.dropWhile_suffix (l := (splitOn '/' cs).reverse)
    fun piece => piece = [] || piece = ['.']
  have hsplit := congrArg List.reverse hback
  rw [List.reverse_append, List.reverse_reverse] at hsplit
  have hcs := joinWith_splitOn '/' cs
  rw [← hsplit] at hcs
  rw [trimBack]
  conv => rhs; rw [← hcs]
  exact isPrefix_joinWith '/' _ _

theorem getLast?_trimBack_ne (cs : List Char) : (trimBack cs).getLast? ≠ some '/' := by
  unfold trimBack
  have hlast := List.head?_dropWhile_not (fun piece => piece = [] || piece = ['.'])
    (splitOn '/' cs).reverse
  have hmem := (List.dropWhile_suffix (l := (splitOn '/' cs).reverse)
    fun piece => piece = [] || piece = ['.']).subset
  generalize (splitOn '/' cs).reverse.dropWhile (fun piece => piece = [] || piece = ['.']) = kept
    at hlast hmem
  cases kept with
  | nil => simp [joinWith]
  | cons last kept =>
    have hne : last ≠ [] := by
      rintro rfl
      simp at hlast
    have hslash : '/' ∉ last :=
      not_mem_of_mem_splitOn (List.mem_reverse.1 (hmem List.mem_cons_self))
    rw [List.reverse_cons]
    exact getLast?_joinWith_concat_ne kept.reverse hne hslash

theorem isPrefix_trimEndOf (cs : List Char) : trimEndOf false cs <+: cs := by
  unfold trimEndOf
  rw [if_neg Bool.false_ne_true]
  split
  next rest => exact List.cons_prefix_cons.2 ⟨rfl, isPrefix_trimBack rest⟩
  next rest =>
    split
    next => exact List.cons_prefix_cons.2 ⟨rfl, isPrefix_trimBack rest⟩
    next => exact isPrefix_trimBack _
  next => exact isPrefix_trimBack cs

theorem getLast?_trimEndOf_ne {cs : List Char} (h : cs.head? ≠ some '/') :
    (trimEndOf false cs).getLast? ≠ some '/' := by
  unfold trimEndOf
  rw [if_neg Bool.false_ne_true]
  split
  next => exact absurd rfl h
  next rest =>
    split
    next =>
      have hrest := getLast?_trimBack_ne rest
      cases htrim : trimBack rest with
      | nil => simp
      | cons c cs => rwa [htrim] at hrest
    next => exact getLast?_trimBack_ne _
  next => exact getLast?_trimBack_ne cs

/-- What stands up to the last separator is shorter than a text that does not end with one. -/
theorem length_dropWhile_lt {cs : List Char} (hne : cs ≠ []) (hlast : cs.getLast? ≠ some '/') :
    (cs.reverse.dropWhile (· ≠ '/')).reverse.length < cs.length := by
  obtain ⟨front, last, rfl⟩ := List.eq_nil_or_concat cs |>.resolve_left hne
  have hlast : last ≠ '/' := by simpa using hlast
  rw [List.concat_eq_append, List.reverse_append, List.reverse_singleton, List.singleton_append,
    List.dropWhile_cons_of_pos (by simpa using hlast), List.length_reverse, List.length_append]
  have := (List.dropWhile_suffix (l := front.reverse) (· ≠ '/')).length_le
  rw [List.length_reverse] at this
  exact Nat.lt_succ_of_le this

theorem length_parent?_lt {path parent : String} (h : parent? path = some parent) :
    parent.length < path.length := by
  rw [← String.length_toList, ← String.length_toList]
  unfold parent? at h
  split at h
  next => cases h
  next rest hpath =>
    split at h
    next => cases h
    next hne =>
      rw [← Option.some.inj h, hpath, String.toList_ofList]
      have hcut := length_dropWhile_lt hne (getLast?_trimBack_ne rest)
      have hfirst := (isPrefix_trimBack ((trimBack rest).reverse.dropWhile (· ≠ '/')).reverse).length_le
      have hlast := (isPrefix_trimBack rest).length_le
      simp only [List.length_cons]
      omega
  next hnil hslash =>
    have hhead : path.toList.head? ≠ some '/' := by
      intro hc
      obtain ⟨rest, hrest⟩ := List.head?_eq_some_iff.1 hc
      exact hslash rest hrest
    have hbody := (isPrefix_trimEndOf path.toList).length_le
    have hfront := (isPrefix_trimEndOf
      ((trimEndOf false path.toList).reverse.dropWhile (· ≠ '/')).reverse).length_le
    rw [← Option.some.inj h, String.toList_ofList]
    by_cases hempty : trimEndOf false path.toList = []
    · rw [hempty]
      exact List.length_pos_iff.2 hnil
    · have hcut := length_dropWhile_lt hempty (getLast?_trimEndOf_ne hhead)
      omega

end DocAtlas.Path
