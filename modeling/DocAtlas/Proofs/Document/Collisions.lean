-- SUMMARY: Documents without front matter: when two of them have the same id, and when they have the same route.
import DocAtlas.Document.Basic
import DocAtlas.Proofs.Path
import DocAtlas.Proofs.Route

/-! # Documents that collide

Without front matter, the id of a document is the way to its file without the
extension, and its route is that way without a last `index`. Nothing is lost in
between: two files have the same id only if they differ in their extensions, and
two documents have the same route only if their ids agree without the `index`. -/

namespace DocAtlas

open Text

/-! ## The directory of a relative path -/

namespace Path

theorem names_eq_inner (path : String) :
    names path = (inner path.toList).filterMap fun
      | .name text => some text
      | _ => none := by
  obtain ⟨lead, hlead, hcomps⟩ := components_eq path
  rw [names, hcomps, List.filterMap_append]
  rcases hlead with rfl | rfl | rfl <;> rfl

/-- A path of names starts with a piece that stands for one. -/
theorem exists_pieces_of_names {path : String} {names : List (List Char)} (hne : names ≠ [])
    (h : components path = names.map .name) :
    ∃ piece pieces comp, splitOn '/' path.toList = piece :: pieces ∧ piece? piece = some comp := by
  obtain ⟨name, rest, rfl⟩ := List.exists_cons_of_ne_nil hne
  obtain ⟨piece, pieces, hsplit⟩ := List.exists_cons_of_ne_nil (splitOn_ne_nil '/' path.toList)
  have hpath : piece ++ pieces.flatMap ('/' :: ·) = path.toList := by
    rw [← joinWith_cons, ← hsplit, joinWith_splitOn]
  have hstep : ¬ (piece = [] ∨ piece = ['.']) := by
    rintro (rfl | rfl)
    -- an empty first piece is that of a path from the root, or of the empty path
    · rw [components, ← hpath] at h
      cases pieces <;> cases h
    · unfold components parts at h
      split at h
      next => cases h
      next =>
        rw [hsplit] at h
        cases h
  obtain ⟨comp, hcomp⟩ := exists_piece? hstep
  exact ⟨piece, pieces, comp, hsplit, hcomp⟩

/-- A text that starts with a component is trimmed at its end alone. -/
theorem trimEndOf_joinWith_cons {piece : List Char} {pieces : List (List Char)} {comp : Component}
    (hslash : '/' ∉ piece) (hpiece : piece? piece = some comp) :
    trimEndOf false (joinWith '/' (piece :: pieces)) = trimBack (joinWith '/' (piece :: pieces)) := by
  rw [joinWith_cons]
  cases piece with
  | nil => cases hpiece
  | cons c piece =>
    rw [List.mem_cons, not_or] at hslash
    simp only [List.cons_append, trimEndOf, Bool.false_eq_true, if_false]
    split
    next heq => exact absurd (List.cons.inj heq).1.symm hslash.1
    next rest heq =>
      obtain ⟨rfl, rfl⟩ := List.cons.inj heq
      rw [if_neg]
      rintro (hnil | hhead)
      · rw [(List.append_eq_nil_iff.1 hnil).1] at hpiece
        cases hpiece
      · cases piece with
        | nil => cases hpiece
        | cons d piece =>
          rw [List.cons_append, List.head?_cons] at hhead
          exact hslash.2 (Option.some.inj hhead ▸ List.mem_cons_self)
    next => rfl

/-- What trimming leaves of a text that starts with a component starts with it too. -/
theorem exists_trimBack_eq {piece : List Char} {pieces : List (List Char)} {comp : Component}
    (hslash : ∀ p ∈ piece :: pieces, '/' ∉ p) (hpiece : piece? piece = some comp) :
    ∃ rest, trimBack (joinWith '/' (piece :: pieces)) = joinWith '/' (piece :: rest) ∧
      ∀ p ∈ piece :: rest, '/' ∉ p := by
  have hsplit := splitOn_joinWith (List.cons_ne_nil piece pieces) hslash
  have hkept := List.rdropWhile_prefix (fun p => p = [] || p = ['.']) (piece :: pieces)
  rcases List.prefix_cons_iff.1 hkept with hnil | ⟨rest, hrest, -⟩
  · have hblank := List.rdropWhile_eq_nil_iff.1 hnil piece List.mem_cons_self
    rw [piece?, if_pos (by simpa using hblank)] at hpiece
    cases hpiece
  · refine ⟨rest, ?_, fun p hp => hslash p (hkept.subset (hrest ▸ hp))⟩
    rw [trimBack, hsplit, ← hrest, List.rdropWhile]

theorem parent?_of_relative {path : String} (hne : path.toList ≠ [])
    (hslash : path.toList.head? ≠ some '/') :
    parent? path = some (String.ofList (trimEndOf false
      ((trimEndOf false path.toList).reverse.dropWhile (· ≠ '/')).reverse)) := by
  unfold parent?
  split
  next hnil => exact absurd hnil hne
  next hroot => exact absurd (by rw [hroot]; rfl) hslash
  next => rfl

/-- Without blank pieces at its end, a path of names is those before the last one, and the last one. -/
theorem exists_trimBack_of_names {path : String} {dir : List (List Char)} {name : List Char}
    (h : inner path.toList = (dir ++ [name]).map .name) :
    ∃ front last, trimBack path.toList = joinWith '/' (front ++ [last]) ∧
      (∀ p ∈ front ++ [last], '/' ∉ p) ∧ front.filterMap piece? = dir.map .name := by
  rw [inner, ← filterMap_piece?_filter_isStep] at h
  obtain ⟨-, hblank⟩ | ⟨front, last, htrim, -, hslash, hsteps⟩ := trimBack_cases path.toList
  · rw [hblank] at h
    simp at h
  · refine ⟨front, last, htrim, hslash, ?_⟩
    have hlast : isStep last = true := by
      have hmem : last ∈ (splitOn '/' path.toList).filter isStep := by simp [hsteps]
      exact (List.mem_filter.1 hmem).2
    obtain ⟨comp, hcomp⟩ := exists_piece?_of_isStep hlast
    rw [hsteps, List.filterMap_append, filterMap_piece?_filter_isStep, List.filterMap_cons_some hcomp,
      List.map_append] at h
    exact (List.append_inj' h rfl).1

/-- The directory of a path of names has all of them but the last one. -/
theorem exists_parent?_of_names {path : String} {dir : List (List Char)} {name : List Char}
    (h : components path = (dir ++ [name]).map .name) :
    ∃ parent, parent? path = some parent ∧ names parent = dir := by
  obtain ⟨piece, pieces, comp, hsplit, hpiece⟩ := exists_pieces_of_names (by simp) h
  have hslash : ∀ p ∈ piece :: pieces, '/' ∉ p := fun p hp => not_mem_of_mem_splitOn (hsplit ▸ hp)
  have hpath : path.toList = joinWith '/' (piece :: pieces) := by rw [← hsplit, joinWith_splitOn]
  have hinner : inner path.toList = (dir ++ [name]).map .name := by
    rw [← h, components, hpath, parts_joinWith_cons hslash hpiece]
  have hstart : path.toList ≠ [] ∧ path.toList.head? ≠ some '/' := by
    rw [hpath, joinWith_cons]
    cases piece with
    | nil => cases hpiece
    | cons c piece =>
      have hc : '/' ≠ c := fun hc => hslash _ List.mem_cons_self (hc ▸ List.mem_cons_self)
      simp [Ne.symm hc]
  obtain ⟨front, last, htrim, hfront, hdir⟩ := exists_trimBack_of_names hinner
  have hcut : ((trimEndOf false path.toList).reverse.dropWhile (· ≠ '/')).reverse
      = front.flatMap (· ++ ['/']) := by
    rw [hpath, trimEndOf_joinWith_cons (hslash piece List.mem_cons_self) hpiece, ← hpath, htrim]
    exact dropWhile_reverse_joinWith (hfront last (by simp))
  -- the first piece stays where it is, so that nothing at the start is trimmed
  have hend : trimEndOf false (front.flatMap (· ++ ['/'])) = trimBack (front.flatMap (· ++ ['/'])) := by
    obtain ⟨rest, hrest, hslash'⟩ := exists_trimBack_eq hslash hpiece
    have hsame : front ++ [last] = piece :: rest := by
      rw [← splitOn_joinWith (by simp) hfront, ← htrim, hpath, hrest,
        splitOn_joinWith (List.cons_ne_nil piece rest) hslash']
    cases front with
    | nil => rfl
    | cons first front =>
      obtain ⟨rfl, -⟩ := List.cons.inj hsame
      have hjoin : (first :: front).flatMap (· ++ ['/']) = joinWith '/' (first :: (front ++ [[]])) := by
        rw [← List.cons_append, joinWith_concat, List.append_nil]
      rw [hjoin, trimEndOf_joinWith_cons (hslash first List.mem_cons_self) hpiece]
  refine ⟨_, parent?_of_relative hstart.1 hstart.2, ?_⟩
  rw [names_eq_inner, String.toList_ofList, hcut, hend, inner_trimBack,
    inner_flatMap_concat fun p hp => hfront p (List.mem_append_left _ hp), hdir]
  simp [List.filterMap_map]

end Path

/-! ## A last `index` -/

theorem ofList_joinWith_inj {names names' : List (List Char)} (h : ∀ n ∈ names, IsPlain n)
    (h' : ∀ n ∈ names', IsPlain n) :
    String.ofList (joinWith '/' names) = String.ofList (joinWith '/' names') ↔ names = names' := by
  constructor
  · intro hsame
    exact joinWith_injective h h' (String.ofList_injective hsame)
  · intro hsame
    rw [hsame]

namespace Route

theorem stripIndex_ofList {text : List Char} (h : String.ofList text ≠ "index") :
    stripIndex (String.ofList text)
      = String.ofList ((dropTail? "/index".toList text).getD text) := by
  have htext : (String.ofList text).toList = text := String.toList_ofList
  simp only [stripIndex, if_neg h, htext]
  cases dropTail? "/index".toList text <;> rfl

theorem stripIndex_joinWith_concat {front : List (List Char)} {last : List Char}
    (h : ∀ n ∈ front ++ [last], IsPlain n) :
    stripIndex (String.ofList (joinWith '/' (front ++ [last])))
      = String.ofList (joinWith '/' (if last = "index".toList then front else front ++ [last])) := by
  have hplain : ∀ n ∈ ["index".toList], IsPlain n := List.forall_mem_singleton.2 (by decide)
  have hlone : String.ofList (joinWith '/' (front ++ [last])) = "index" ↔
      front ++ [last] = [] ++ ["index".toList] := ofList_joinWith_inj h hplain
  by_cases hindex : last = "index".toList
  · rw [if_pos hindex]
    by_cases hfront : front = []
    · rw [hlone.2 (by simp [hfront, hindex]), hfront]
      rfl
    · have hid : String.ofList (joinWith '/' (front ++ [last])) ≠ "index" := fun hid =>
        hfront (by simpa using congrArg List.length (hlone.1 hid))
      have hcut : dropTail? "/index".toList (joinWith '/' (front ++ [last]))
          = some (joinWith '/' front) := by
        rw [dropTail?_eq_some_iff, joinWith_append '/' hfront (List.cons_ne_nil _ _), hindex]
        rfl
      rw [stripIndex_ofList hid, hcut, Option.getD_some]
  · have hid : String.ofList (joinWith '/' (front ++ [last])) ≠ "index" := fun hid =>
      hindex (List.singleton_injective (List.append_inj' (hlone.1 hid) rfl).2)
    have hcut : dropTail? "/index".toList (joinWith '/' (front ++ [last])) = none := by
      rw [Option.eq_none_iff_forall_ne_some]
      intro before hbefore
      have hpieces := congrArg (splitOn '/') (dropTail?_eq_some_iff.1 hbefore)
      have hindexed : splitOn '/' (before ++ "/index".toList)
          = splitOn '/' before ++ ["index".toList] := splitOn_append '/' before "index".toList
      rw [splitOn_joinWith (by simp) fun n hn => (h n hn).no_slash, hindexed] at hpieces
      exact hindex (List.singleton_injective (List.append_inj' hpieces rfl).2)
    rw [if_neg hindex, stripIndex_ofList hid, hcut, Option.getD_none]

end Route

/-! ## Stems -/

/-- The second text is the file name without its extension, which is the last dot and what follows
it. -/
inductive HasStem : (name stem : List Char) → Prop
  | whole {name} : '.' ∉ name → HasStem name name
  | cut {stem ext} : '.' ∉ ext → HasStem (stem ++ '.' :: ext) stem

theorem hasStem_iff {name stem : List Char} (h : name.head? ≠ some '.') :
    HasStem name stem ↔ (Path.cutExtension name).1 = stem := by
  constructor
  · intro hstem
    cases hstem with
    | whole hdot => simp [Path.cutExtension, hdot]
    | cut hext =>
      have hne : stem ≠ [] := by
        rintro rfl
        exact h rfl
      rw [Path.cutExtension_append hne hext]
  · rintro rfl
    by_cases hdot : '.' ∈ name
    · obtain ⟨tail, front, hreverse, htail⟩ := List.eq_append_cons_of_mem (List.mem_reverse.2 hdot)
      obtain rfl : name = front.reverse ++ '.' :: tail.reverse := by
        rw [← List.reverse_reverse name, hreverse]
        simp
      have hne : front.reverse ≠ [] := by
        intro hnil
        rw [hnil] at h
        exact h rfl
      have hext : '.' ∉ tail.reverse := by simpa using htail
      rw [Path.cutExtension_append hne hext]
      exact .cut hext
    · rw [Path.cutExtension, if_neg fun hcut => hdot hcut.1]
      exact .whole hdot

/-! ## Plain files -/

/-- A file by its path below the documents directory, in any spelling. The path has names only, none
of which starts with a dot. -/
structure PlainFile where
  path : String
  dir : List (List Char)
  name : List Char
  components_eq : Path.components path = (dir ++ [name]).map .name
  visible : ∀ n ∈ dir ++ [name], n.head? ≠ some '.'

namespace PlainFile

/-- The document in the file, which has no front matter. -/
def document (f : PlainFile) (routePrefix : String) : Document := .ofFile f.path routePrefix {}

/-- The files differ at most in their extensions. -/
def SameButExtension (f g : PlainFile) : Prop :=
  f.dir = g.dir ∧ ∃ stem, HasStem f.name stem ∧ HasStem g.name stem

def stem (f : PlainFile) : List Char := (Path.cutExtension f.name).1

/-- The names that lead to the file, without its extension. -/
def address (f : PlainFile) : List (List Char) := f.dir ++ [f.stem]

/-- The names of the address without a last `index`. -/
def place (f : PlainFile) : List (List Char) := if f.stem = "index".toList then f.dir else f.address

variable (f g : PlainFile)

theorem isPlain_of_mem {n : List Char} (hn : n ∈ f.dir ++ [f.name]) : IsPlain n := by
  have hmem : .name n ∈ Path.components f.path := by
    rw [f.components_eq]
    exact List.mem_map_of_mem hn
  exact Path.isPlain_of_name_mem_components hmem

theorem hasStem : HasStem f.name f.stem := (hasStem_iff (f.visible f.name (by simp))).2 rfl

theorem isPlain_stem : IsPlain f.stem := by
  have hname : IsPlain f.name := f.isPlain_of_mem (by simp)
  have hdot : f.name.head? ≠ some '.' := f.visible f.name (by simp)
  generalize f.name = name, f.stem = stem, f.hasStem = hstem at hname hdot
  cases hstem with
  | whole => exact hname
  | cut =>
    cases stem with
    | nil => exact absurd rfl hdot
    | cons c stem =>
      have hc : c ≠ '.' := fun hc => hdot (by rw [hc]; rfl)
      exact ⟨by simp, by simp [hc], by simp [hc], fun h => hname.no_slash (List.mem_append_left _ h)⟩

theorem isPlain_of_mem_address {n : List Char} (hn : n ∈ f.address) : IsPlain n := by
  rcases List.mem_append.1 hn with hdir | hstem
  · exact f.isPlain_of_mem (List.mem_append_left _ hdir)
  · rw [List.mem_singleton.1 hstem]
    exact f.isPlain_stem

theorem isPlain_of_mem_place {n : List Char} (hn : n ∈ f.place) : IsPlain n := by
  apply f.isPlain_of_mem_address
  unfold place at hn
  split at hn
  next => exact List.mem_append_left _ hn
  next => exact hn

theorem id_document (routePrefix : String) :
    (f.document routePrefix).id = String.ofList (joinWith '/' f.address) := by
  obtain ⟨parent, hparent, hnames⟩ := Path.exists_parent?_of_names f.components_eq
  have hdir : Document.directoryOf f.path = String.ofList (joinWith '/' f.dir) := by
    rw [Document.directoryOf, hparent, ← hnames]
    rfl
  have hstem : Path.stem? f.path = some f.stem := by
    rw [Path.stem?, Path.fileName?, f.components_eq]
    simp [stem]
  change Document.idOf f.path {} = _
  simp only [Document.idOf, hdir, hstem, Option.getD_some]
  by_cases hnil : f.dir = []
  · simp [hnil, address, joinWith]
  · have hempty : String.ofList (joinWith '/' f.dir) ≠ "" := by
      intro hempty
      refine hnil (joinWith_injective (fun n hn => ?_) (by simp) (String.ofList_injective hempty))
      exact f.isPlain_of_mem (List.mem_append_left _ hn)
    rw [if_neg hempty, address, joinWith_append '/' hnil (List.cons_ne_nil _ _), ← String.toList_inj]
    simp [joinWith]

theorem stripIndex_id (routePrefix : String) :
    Route.stripIndex (f.document routePrefix).id = String.ofList (joinWith '/' f.place) := by
  rw [f.id_document]
  exact Route.stripIndex_joinWith_concat fun n hn => f.isPlain_of_mem_address hn

theorem route_document (routePrefix : String) :
    (f.document routePrefix).route
      = Route.render (Route.segments routePrefix.toList ++ f.place) := by
  have hroute : (f.document routePrefix).route
      = Route.clean (routePrefix ++ "/" ++ Route.stripIndex (f.document routePrefix).id) := rfl
  have hsegments : Route.segments (routePrefix.toList ++ '/' :: joinWith '/' f.place)
      = Route.segments routePrefix.toList ++ f.place := by
    rw [Route.segments_append_slash,
      Route.follow_splitOn_joinWith fun _ => f.isPlain_of_mem_place]
  rw [hroute, f.stripIndex_id, Route.clean, ← hsegments]
  simp

theorem join_address_index :
    String.ofList (joinWith '/' (f.address ++ ["index".toList]))
      = String.ofList (joinWith '/' f.address) ++ "/index" := by
  have hne : f.address ≠ [] := List.concat_ne_nil _ _
  rw [joinWith_append '/' hne (List.cons_ne_nil _ _), String.ofList_append]
  rfl

theorem address_eq_iff : f.address = g.address ↔ f.SameButExtension g := by
  have hfdot : f.name.head? ≠ some '.' := f.visible f.name (by simp)
  have hgdot : g.name.head? ≠ some '.' := g.visible g.name (by simp)
  constructor
  · intro h
    obtain ⟨hdir, hstem⟩ := List.append_inj' h rfl
    exact ⟨hdir, f.stem, f.hasStem, List.singleton_injective hstem ▸ g.hasStem⟩
  · rintro ⟨hdir, stem, hf, hg⟩
    have hstem : f.stem = g.stem := ((hasStem_iff hfdot).1 hf).trans ((hasStem_iff hgdot).1 hg).symm
    rw [address, address, hdir, hstem]

/-- Of two addresses with the same place, one is the place and the other has `index` behind it. -/
theorem address_eq_of_place_eq {f g : PlainFile} (hplace : f.place = g.place)
    (hne : f.address ≠ g.address) :
    g.address = f.address ++ ["index".toList] ∨ f.address = g.address ++ ["index".toList] := by
  unfold place at hplace
  split_ifs at hplace with hf hg hg
  · exact absurd (by rw [address, address, hplace, hf, hg]) hne
  · exact .inr (by rw [← hplace, address, hf])
  · exact .inl (by rw [hplace, address, hg])
  · exact absurd hplace hne

/-- Two documents have the same route exactly when their places are the same. -/
theorem route_eq_iff (routePrefix : String) :
    (f.document routePrefix).route = (g.document routePrefix).route ↔ f.place = g.place := by
  have hplain (f : PlainFile) :
      ∀ seg ∈ Route.segments routePrefix.toList ++ f.place, IsPlain seg := by
    intro seg hseg
    rcases List.mem_append.1 hseg with hseg | hseg
    · exact Route.isPlain_of_mem_segments hseg
    · exact f.isPlain_of_mem_place hseg
  rw [f.route_document, g.route_document]
  constructor
  · intro h
    exact List.append_cancel_left (Route.render_injective (hplain f) (hplain g) h)
  · intro h
    rw [h]

/-- Two files without front matter have the same id exactly when they differ at most in their
extensions, and the same route exactly when their ids are the same without a last `index`. So two
ids share a route only where one of them is the other with `index` behind it. -/
theorem collisions (routePrefix : String) :
    ((f.document routePrefix).id = (g.document routePrefix).id ↔ f.SameButExtension g) ∧
      ((f.document routePrefix).route = (g.document routePrefix).route ↔
        Route.stripIndex (f.document routePrefix).id = Route.stripIndex (g.document routePrefix).id) ∧
      ((f.document routePrefix).route = (g.document routePrefix).route →
        (f.document routePrefix).id ≠ (g.document routePrefix).id →
        (g.document routePrefix).id = (f.document routePrefix).id ++ "/index" ∨
          (f.document routePrefix).id = (g.document routePrefix).id ++ "/index") := by
  rw [route_eq_iff, stripIndex_id, stripIndex_id, id_document, id_document]
  refine ⟨?_, ?_, ?_⟩
  · rw [ofList_joinWith_inj (fun _ => f.isPlain_of_mem_address) fun _ => g.isPlain_of_mem_address]
    exact f.address_eq_iff g
  · rw [ofList_joinWith_inj (fun _ => f.isPlain_of_mem_place) fun _ => g.isPlain_of_mem_place]
  · intro hplace hne
    have haddress : f.address ≠ g.address := fun h => hne (by rw [h])
    rcases address_eq_of_place_eq hplace haddress with h | h
    · exact .inl (h ▸ f.join_address_index)
    · exact .inr (h ▸ g.join_address_index)

/-- A file `x.md`. -/
def page : PlainFile := ⟨"x.md", [], "x.md".toList, by decide, by simp⟩

/-- A file `x/index.mdx`, its path spelled with more than it needs. -/
def pageIndex : PlainFile :=
  ⟨"x//./index.mdx/", ["x".toList], "index.mdx".toList, by decide, by simp⟩

theorem collisions_page_pageIndex :
    ¬ page.SameButExtension pageIndex ∧
      (page.document "/docs").route = (pageIndex.document "/docs").route ∧
      (page.document "/docs").id = "x" ∧ (pageIndex.document "/docs").id = "x/index" := by
  obtain ⟨hids, hroutes, -⟩ := collisions page pageIndex "/docs"
  have hpage : (page.document "/docs").id = "x" := by decide
  have hindex : (pageIndex.document "/docs").id = "x/index" := by decide
  rw [hpage, hindex] at hids hroutes
  exact ⟨mt hids.2 (by decide), hroutes.2 (by decide), hpage, hindex⟩

end PlainFile

end DocAtlas
