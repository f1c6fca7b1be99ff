-- SUMMARY: The catalogue read off a disk: one document for each document file, found by id, file and every spelling of its route.
import DocAtlas.Catalog.Load
import DocAtlas.Proofs.Catalog.Index
import DocAtlas.Proofs.Disk
import DocAtlas.Proofs.Route
import DocAtlas.Proofs.Settings.Validation
import Mathlib.Data.List.Perm.Basic

/-! # Loaded catalogues

The files that a catalogue is read from, said in terms of the nodes of the disk
and of names, and what a catalogue that is read without failure has to do with
them: its documents correspond to the document files, and its routes are those
of documents, pages and static files. -/

namespace DocAtlas

open Text

/-! ## Activities -/

namespace Told

variable {α β : Type}

theorem result_ofExcept (e : Except Failure α) : (ofExcept e).result = e := rfl

theorem result_bind_eq_ok {x : Told α} {f : α → Told β} {b : β} :
    (x >>= f).result = .ok b ↔ ∃ a, x.result = .ok a ∧ (f a).result = .ok b := by
  change (Told.bind x f).result = .ok b ↔ _
  unfold Told.bind
  cases x.result <;> simp

end Told

/-! ## Files below a directory -/

namespace Disk

variable {d : Disk} {dir : String} {rel : Place}

/-- A file at the given names below the directory that a path leads to, where all directories on the
way to the file can be listed. -/
def HasFile (d : Disk) (dir : String) (rel : Place) : Prop :=
  ∃ p data, d.find dir = .ok (p, .directory) ∧ d.get? (p ++ rel) = some (.file data) ∧
    d.isOpen p rel = true

theorem HasFile.ne_nil (h : d.HasFile dir rel) : rel ≠ [] := by
  rintro rfl
  obtain ⟨p, data, hfind, hget, -⟩ := h
  rw [List.append_nil, (reached_of_find hfind).2.2] at hget
  cases hget

theorem isListed_iff : isListed rel = true ↔ ∀ name ∈ rel, name.head? ≠ some '.' := by
  simp [isListed]

theorem mem_filesIn (hd : d.WellFormed) :
    rel ∈ d.filesIn dir ↔ d.HasFile dir rel ∧ ∀ name ∈ rel, name.head? ≠ some '.' := by
  unfold filesIn
  split
  next p hfind =>
    have hfile : d.HasFile dir rel ↔
        d.isOpen p rel = true ∧ ∃ data, d.get? (p ++ rel) = some (.file data) := by
      simp [HasFile, hfind, and_comm]
    rw [mem_filesBelow hd, isListed_iff, ← hfile]
    exact ⟨fun ⟨_, hlisted, h⟩ => ⟨h, hlisted⟩, fun ⟨h, hlisted⟩ => ⟨h.ne_nil, hlisted, h⟩⟩
  next hfind =>
    simp only [List.not_mem_nil, false_iff, not_and]
    rintro ⟨p, data, h, -⟩
    exact absurd h (hfind p)

theorem nodup_filesIn (hd : d.WellFormed) (dir : String) : (d.filesIn dir).Nodup := by
  unfold filesIn
  split
  · exact nodup_filesBelow hd _
  · exact List.nodup_nil

/-- The names of a file are plain unless they start with a dot, as `.` and `..` do. -/
theorem isPlain_of_file {p : Place} {data : FileData} (hd : d.WellFormed)
    (hget : d.get? (p ++ rel) = some (.file data))
    (hlisted : ∀ name ∈ rel, name.head? ≠ some '.') : ∀ name ∈ rel, IsPlain name := by
  intro name hname
  have hnode := ((get?_eq_file_iff hd).1 hget).2
  obtain ⟨hnil, hslash⟩ := hd.named _ hnode name (List.mem_append_right p hname)
  have hdot := hlisted name hname
  exact ⟨hnil, fun e => hdot (by simp [e]), fun e => hdot (by simp [e]), hslash⟩

theorem isPlain_append_of_file {p : Place} {data : FileData} (hd : d.WellFormed)
    (hfind : d.find dir = .ok (p, .directory)) (hget : d.get? (p ++ rel) = some (.file data))
    (hlisted : ∀ name ∈ rel, name.head? ≠ some '.') : ∀ name ∈ p ++ rel, IsPlain name := by
  intro name hname
  rcases List.mem_append.1 hname with hname | hname
  · exact (reached_of_find hfind).2.1.plain name hname
  · exact isPlain_of_file hd hget hlisted name hname

theorem HasFile.isPlain (hd : d.WellFormed) (h : d.HasFile dir rel)
    (hlisted : ∀ name ∈ rel, name.head? ≠ some '.') : ∀ name ∈ rel, IsPlain name := by
  obtain ⟨p, data, -, hget, -⟩ := h
  exact isPlain_of_file hd hget hlisted

theorem HasFile.isPlain_append {p : Place} (hd : d.WellFormed)
    (hfind : d.find dir = .ok (p, .directory)) (h : d.HasFile dir rel)
    (hlisted : ∀ name ∈ rel, name.head? ≠ some '.') : ∀ name ∈ p ++ rel, IsPlain name := by
  obtain ⟨p', data, hfind', hget, -⟩ := h
  obtain ⟨rfl, -⟩ := Prod.mk.inj (Except.ok.inj (hfind.symm.trans hfind'))
  exact isPlain_append_of_file hd hfind hget hlisted

/-- The directory that a path leads to and all directories below it can be listed. -/
def IsOpenBelow (d : Disk) (dir : String) : Prop :=
  ∀ p, d.find dir = .ok (p, .directory) → ∀ q ∈ d.closed, ¬ p <+: q

theorem IsOpenBelow.isOpen {p : Place} (h : d.IsOpenBelow dir)
    (hfind : d.find dir = .ok (p, .directory)) (rel : Place) : d.isOpen p rel = true :=
  isOpen_iff.2 fun front _ _ hmem => h p hfind _ hmem (List.prefix_append p front)

end Disk

namespace Catalog

variable {disk : Disk} {site : Site} {dir : String} {rel : Place}

/-- The names of a source below its directory: none of them starts with a dot or an underscore,
and the last has one of the extensions. -/
def IsSource (extensions : List String) (rel : Place) : Prop :=
  (∀ name ∈ rel, name.head? ≠ some '.' ∧ name.head? ≠ some '_') ∧
    Path.HasExtensionIn extensions rel

/-- The sources below a directory, as they are listed. -/
def listedSources (disk : Disk) (dir : String) (extensions : List String) : List Place :=
  (disk.filesIn dir).filter fun rel =>
    Path.hasExtension extensions (Disk.relativePath rel) && !isPartial rel

theorem filter_sourcesIn (disk : Disk) (dir : String) (extensions : List String) :
    (sourcesIn disk dir).filter (Path.hasExtension extensions)
      = (listedSources disk dir extensions).map Disk.relativePath := by
  rw [sourcesIn, List.filter_map, List.filter_filter]
  rfl

theorem isPartial_eq_false_iff :
    isPartial rel = false ↔ ∀ name ∈ rel, name.head? ≠ some '_' := by
  simp [isPartial]

theorem mem_listedSources (hd : disk.WellFormed) {extensions : List String}
    (hext : ∀ e ∈ extensions, '.' ∉ e.toList) :
    rel ∈ listedSources disk dir extensions ↔ disk.HasFile dir rel ∧ IsSource extensions rel := by
  rw [listedSources, List.mem_filter, Disk.mem_filesIn hd, Bool.and_eq_true, Bool.not_eq_true',
    isPartial_eq_false_iff]
  constructor
  · rintro ⟨⟨hfile, hlisted⟩, hextension, hpartial⟩
    have hplain := hfile.isPlain hd hlisted
    exact ⟨hfile, fun name hn => ⟨hlisted name hn, hpartial name hn⟩,
      (Path.hasExtension_joinWith hplain hlisted hext).1 hextension⟩
  · rintro ⟨hfile, hnames, hextension⟩
    have hlisted : ∀ name ∈ rel, name.head? ≠ some '.' := fun name hn => (hnames name hn).1
    have hplain := hfile.isPlain hd hlisted
    exact ⟨⟨hfile, hlisted⟩, (Path.hasExtension_joinWith hplain hlisted hext).2 hextension,
      fun name hn => (hnames name hn).2⟩

theorem nodup_listedSources (hd : disk.WellFormed) (dir : String) (extensions : List String) :
    (listedSources disk dir extensions).Nodup :=
  (Disk.nodup_filesIn hd dir).filter _

/-! ## Documents -/

/-- The place of a file that a document is read from. -/
def IsDocFile (disk : Disk) (site : Site) (q : Place) : Prop :=
  ∃ p rel data, disk.find (site.join site.settings.docs.path) = .ok (p, .directory) ∧
    q = p ++ rel ∧ disk.get? q = some (.file data) ∧ IsSource docExtensions rel

/-- The document is read from the file at the place `q`. -/
structure ReadFrom (site : Site) (q : Place) (d : Document) : Prop where
  path : d.path = q.path
  source : d.source = Path.toSlash (site.relative q.path)
  route : Route.clean d.route = d.route

theorem clean_routeOf (rel routePrefix : String) (front : FrontMatter) :
    Route.clean (Document.routeOf rel routePrefix front)
      = Document.routeOf rel routePrefix front := by
  unfold Document.routeOf
  split
  · split <;> exact Route.clean_clean _
  · exact Route.clean_clean _

theorem readDocument_eq_ok {p : Place} {d : Document} (hrel : rel ≠ [])
    (hplain : ∀ name ∈ p ++ rel, IsPlain name)
    (h : readDocument disk site p.path (Disk.relativePath rel) = .ok d) :
    ReadFrom site (p ++ rel) d := by
  have hpath : Path.join p.path (Disk.relativePath rel) = Place.path (p ++ rel) :=
    Place.join_path hplain hrel
  unfold readDocument at h
  dsimp only at h
  split at h
  next => cases h
  next source _ =>
    cases h
    exact ⟨hpath, by rw [← hpath]; rfl, clean_routeOf _ _ _⟩

theorem filesIn_path {p : Place} (h : disk.find dir = .ok (p, .directory)) :
    disk.filesIn p.path = disk.filesIn dir := by
  obtain ⟨-, hreached, hdir⟩ := Disk.reached_of_find h
  simp only [Disk.filesIn, hreached.find_path hdir, h]

theorem documents_eq_ok {p : Place} {docs : List Document} (hd : disk.WellFormed)
    (hfind : disk.find dir = .ok (p, .directory)) (h : documents disk site p.path = .ok docs) :
    List.Forall₂ (ReadFrom site) ((listedSources disk dir docExtensions).map (p ++ ·)) docs := by
  have hplain : ∀ rel ∈ listedSources disk dir docExtensions,
      rel ≠ [] ∧ ∀ name ∈ p ++ rel, IsPlain name := by
    intro rel hrel
    obtain ⟨hfile, hnames, -⟩ := (mem_listedSources hd (by decide)).1 hrel
    exact ⟨hfile.ne_nil, hfile.isPlain_append hd hfind fun name hn => (hnames name hn).1⟩
  rw [documents, filter_sourcesIn, mapM_eq_ok_iff, List.forall₂_map_left_iff, listedSources,
    filesIn_path hfind] at h
  rw [List.forall₂_map_left_iff]
  exact (List.forall₂_and_left _ _ |>.2 ⟨hplain, h⟩).imp fun rel d ⟨⟨hne, hnames⟩, hread⟩ =>
    readDocument_eq_ok hne hnames hread

theorem isDocFile_iff {p q : Place} (hd : disk.WellFormed)
    (hopen : disk.IsOpenBelow (site.join site.settings.docs.path))
    (hfind : disk.find (site.join site.settings.docs.path) = .ok (p, .directory)) :
    IsDocFile disk site q ↔
      q ∈ (listedSources disk (site.join site.settings.docs.path) docExtensions).map (p ++ ·) := by
  rw [List.mem_map]
  constructor
  · rintro ⟨p', rel, data, hfind', rfl, hget, hsource⟩
    obtain ⟨rfl, -⟩ := Prod.mk.inj (Except.ok.inj (hfind.symm.trans hfind'))
    have hfile : disk.HasFile (site.join site.settings.docs.path) rel :=
      ⟨p, data, hfind, hget, hopen.isOpen hfind rel⟩
    exact ⟨rel, (mem_listedSources hd (by decide)).2 ⟨hfile, hsource⟩, rfl⟩
  · rintro ⟨rel, hrel, rfl⟩
    obtain ⟨⟨p', data, hfind', hget, -⟩, hsource⟩ := (mem_listedSources hd (by decide)).1 hrel
    obtain ⟨rfl, -⟩ := Prod.mk.inj (Except.ok.inj (hfind.symm.trans hfind'))
    exact ⟨p, rel, data, hfind, rfl, hget, hsource⟩

/-- The documents of a site are read from its document files, one from each. -/
theorem siteDocuments_eq_ok {docs : List Document} (hd : disk.WellFormed)
    (hopen : disk.IsOpenBelow (site.join site.settings.docs.path))
    (hpath : site.join site.settings.docs.path ≠ "")
    (h : (siteDocuments disk site).result = .ok docs) :
    ∃ places : List Place, places.Nodup ∧ (∀ q, q ∈ places ↔ IsDocFile disk site q) ∧
      List.Forall₂ (ReadFrom site) places docs := by
  simp only [siteDocuments, Disk.isDirectory_normalize hpath] at h
  split at h
  next hdir =>
    obtain ⟨p, hfind⟩ := Disk.isDirectory_iff.1 hdir
    rw [Disk.normalize_of_find hpath hfind, Told.result_ofExcept] at h
    refine ⟨_, ?_, fun q => (isDocFile_iff hd hopen hfind).symm, documents_eq_ok hd hfind h⟩
    exact (nodup_listedSources hd _ _).map (List.append_right_injective p)
  next hdir =>
    obtain ⟨_, -, hnil⟩ := Told.result_bind_eq_ok.1 h
    obtain rfl := Except.ok.inj hnil
    refine ⟨[], List.nodup_nil, fun q => ?_, .nil⟩
    simp only [List.not_mem_nil, false_iff]
    rintro ⟨p, rel, data, hfind, -⟩
    exact hdir (Disk.isDirectory_iff.2 ⟨p, hfind⟩)

theorem IsDocFile.isPlain {q : Place} (hd : disk.WellFormed) (h : IsDocFile disk site q) :
    ∀ name ∈ q, IsPlain name := by
  obtain ⟨p, rel, data, hfind, rfl, hget, hnames, -⟩ := h
  exact Disk.isPlain_append_of_file hd hfind hget fun name hn => (hnames name hn).1

/-- Below a root that has names only, the documents directory has the names of the root in front. -/
theorem exists_eq_append_of_find {p : Place} {n : Node} {front : List FileName} {path : String}
    (hlinks : disk.Linkless) (hroot : Path.components site.root = .root :: front.map .name)
    (hpath : Demand.StaysBelow path) (h : disk.find (site.join path) = .ok (p, n)) :
    ∃ rest, p = front ++ rest := by
  obtain ⟨hplace, -, -⟩ := Disk.reached_of_find h
  obtain ⟨hup, hfront⟩ := Path.names_of_components hroot
  obtain ⟨-, habs, hparent⟩ := hpath
  rw [Path.parent_mem_components_iff] at hparent
  rw [Disk.place, Site.join, Disk.pieces_join habs] at hplace
  have hpieces : ['.', '.'] ∉ Disk.pieces site.root ++ Disk.pieces path := by
    simp [Disk.pieces, hup, hparent]
  have hp := hlinks.eq_append_of_follow hpieces hplace
  rw [List.nil_append, List.filter_append] at hp
  exact ⟨_, hp.trans (congrArg (· ++ _) hfront)⟩

/-- The source of a document is what follows the same names in the places of all documents: those
of the site root, or none where the root is no place above the documents. -/
theorem exists_front_of_source (hd : disk.WellFormed) (hlinks : disk.Linkless)
    (hpath : Demand.StaysBelow site.settings.docs.path) :
    ∃ front : Place, ∀ q, IsDocFile disk site q → ∃ rest, q = front ++ rest ∧
      Path.toSlash (site.relative q.path) = String.ofList (joinWith '/' rest) := by
  by_cases hroot : ∃ front : List FileName,
      Path.components site.root = .root :: front.map .name
  · obtain ⟨front, hroot⟩ := hroot
    refine ⟨front, fun q hq => ?_⟩
    have hplain := hq.isPlain hd
    obtain ⟨p, rel, data, hfind, rfl, -⟩ := hq
    obtain ⟨rest, rfl⟩ := exists_eq_append_of_find hlinks hroot hpath hfind
    rw [List.append_assoc] at hplain ⊢
    have hrest : ∀ name ∈ rest ++ rel, IsPlain name :=
      fun name hn => hplain name (List.mem_append_right front hn)
    refine ⟨rest ++ rel, rfl, ?_⟩
    rw [Site.relative, Place.path, Path.relativeTo_names hplain hroot, Path.toSlash,
      Path.names_joinWith hrest]
  · refine ⟨[], fun q hq => ⟨q, rfl, ?_⟩⟩
    have hplain := hq.isPlain hd
    rw [Site.relative, Place.path,
      Path.relativeTo_of_not_names hplain fun front h => hroot ⟨front, h⟩, Path.toSlash,
      Path.names_slash_joinWith hplain]

theorem source_injective {q q' : Place} (hd : disk.WellFormed) (hlinks : disk.Linkless)
    (hpath : Demand.StaysBelow site.settings.docs.path) (hq : IsDocFile disk site q)
    (hq' : IsDocFile disk site q')
    (h : Path.toSlash (site.relative q.path) = Path.toSlash (site.relative q'.path)) : q = q' := by
  obtain ⟨front, hfront⟩ := exists_front_of_source hd hlinks hpath
  have hplain := hq.isPlain hd
  have hplain' := hq'.isPlain hd
  obtain ⟨rest, rfl, hrest⟩ := hfront q hq
  obtain ⟨rest', rfl, hrest'⟩ := hfront q' hq'
  have hnames := congrArg Path.names (hrest.symm.trans (h.trans hrest'))
  rw [Path.names_joinWith fun name hn => hplain name (List.mem_append_right front hn),
    Path.names_joinWith fun name hn => hplain' name (List.mem_append_right front hn)] at hnames
  rw [hnames]

/-! ## Catalogues -/

def pageRoute (site : Site) (rel : Place) : String :=
  Route.clean (site.settings.site.baseUrl ++ "/"
    ++ Route.stripIndex (pageId (Disk.relativePath rel)))

def staticRoute (site : Site) (rel : Place) : String :=
  Route.clean (site.settings.site.baseUrl ++ "/" ++ Disk.relativePath rel)

theorem mem_pageRoutes (hd : disk.WellFormed) {route : String} :
    route ∈ pageRoutes disk site ↔ ∃ rel, disk.HasFile (site.join site.settings.theme.pages) rel ∧
      IsSource pageExtensions rel ∧ route = pageRoute site rel := by
  rw [pageRoutes, filter_sourcesIn, List.map_map, List.mem_map]
  simp only [mem_listedSources hd (show ∀ e ∈ pageExtensions, '.' ∉ e.toList by decide), and_assoc]
  exact exists_congr fun rel => and_congr_right fun _ => and_congr_right fun _ => eq_comm

theorem mem_staticRoutes (hd : disk.WellFormed) {route : String} :
    route ∈ staticRoutes disk site ↔ ∃ dir ∈ site.settings.theme.staticDirs,
      ∃ rel, disk.HasFile (site.join dir) rel ∧ (∀ name ∈ rel, name.head? ≠ some '.') ∧
        route = staticRoute site rel := by
  simp only [staticRoutes, List.mem_flatMap, List.mem_map, Disk.mem_filesIn hd, and_assoc]
  exact exists_congr fun dir => and_congr_right fun _ => exists_congr fun rel =>
    and_congr_right fun _ => and_congr_right fun _ => eq_comm

theorem load_eq_ok {c : Catalog} (h : (load disk site).result = .ok c) :
    ∃ docs, (siteDocuments disk site).result = .ok docs ∧ c.docs.Perm docs ∧
      c.docs.Pairwise (·.id < ·.id) ∧
      c.otherRoutes = pageRoutes disk site ++ staticRoutes disk site := by
  obtain ⟨docs, hdocs, h⟩ := Told.result_bind_eq_ok.1 h
  obtain ⟨sidebars, -, h⟩ := Told.result_bind_eq_ok.1 h
  obtain ⟨c', hc', h⟩ := Told.result_bind_eq_ok.1 h
  obtain ⟨_, -, h⟩ := Told.result_bind_eq_ok.1 h
  obtain rfl := Except.ok.inj h
  have hindex : ofDocuments docs sidebars = .ok c' := by
    rw [Told.result_ofExcept] at hc'
    cases hof : ofDocuments docs sidebars with
    | error e => rw [hof] at hc'; cases hc'
    | ok c'' => rw [hof] at hc'; cases hc'; rfl
  obtain ⟨hperm, hids, hother⟩ := ofDocuments_eq_ok hindex
  exact ⟨docs, hdocs, hperm, hids, by simp [addRoutes, hother]⟩

/-- The documents of a loaded catalogue are read from the document files, one from each. -/
theorem exists_places_of_load {c : Catalog} (hd : disk.WellFormed)
    (hopen : disk.IsOpenBelow (site.join site.settings.docs.path))
    (hpath : site.join site.settings.docs.path ≠ "") (h : (load disk site).result = .ok c) :
    ∃ places : List Place, places.Nodup ∧ (∀ q, q ∈ places ↔ IsDocFile disk site q) ∧
      List.Forall₂ (ReadFrom site) places c.docs := by
  obtain ⟨docs, hdocs, hperm, -, -⟩ := load_eq_ok h
  obtain ⟨places, hnodup, hmem, hread⟩ := siteDocuments_eq_ok hd hopen hpath hdocs
  -- sorting moves the documents and their places alike
  obtain ⟨places', hread', hperm'⟩ := List.perm_comp_forall₂ hperm hread.flip
  exact ⟨places', hperm'.nodup_iff.2 hnodup, fun q => hperm'.mem_iff.trans (hmem q), hread'.flip⟩

theorem eq_map_names_of_readFrom {places : List Place} {docs : List Document}
    (hplain : ∀ q ∈ places, ∀ name ∈ q, IsPlain name)
    (hread : List.Forall₂ (ReadFrom site) places docs) :
    places = docs.map fun d => Path.names d.path := by
  rw [← List.forall₂_eq_eq_eq, List.forall₂_map_right_iff]
  refine ((List.forall₂_and_left _ _).2 ⟨hplain, hread⟩).imp fun q d ⟨hq, hfrom⟩ => ?_
  rw [hfrom.path, Place.names_path hq]

theorem map_source_of_readFrom {places : List Place} {docs : List Document}
    (hread : List.Forall₂ (ReadFrom site) places docs) :
    docs.map (·.source) = places.map fun q => Path.toSlash (site.relative q.path) := by
  symm
  rw [← List.forall₂_eq_eq_eq, List.forall₂_map_right_iff, List.forall₂_map_left_iff]
  exact hread.imp fun q d hfrom => hfrom.source.symm

/-- A catalogue as the index of the files of a site. -/
structure Indexes (c : Catalog) (disk : Disk) (site : Site) : Prop where
  ids : c.docs.Pairwise (·.id < ·.id)
  /-- The names in the path of a document are the place of a document file, and each document file
  is that of one document. -/
  files : Set.BijOn (fun d => Path.names d.path) {d | d ∈ c.docs} {q | IsDocFile disk site q}
  path_eq : ∀ d ∈ c.docs, d.path = Place.path (Path.names d.path)
  paths : (c.docs.map fun d => Path.components d.path).Nodup
  sources : (c.docs.map (·.source)).Nodup
  doc?_id : ∀ d ∈ c.docs, c.doc? d.id = some d
  docAt?_path : ∀ d ∈ c.docs, c.docAt? d.path = some d
  clean_route : ∀ d ∈ c.docs, Route.clean d.route = d.route
  hasRoute_of_clean : ∀ d ∈ c.docs, ∀ route, Route.clean route = d.route → c.hasRoute route = true
  hasRoute_of_respells : ∀ d ∈ c.docs, ∀ route,
    Route.Respells (splitOn '/' route.toList) (splitOn '/' d.route.toList) →
      c.hasRoute route = true
  /-- Nothing is served but documents, pages and static files. -/
  hasRoute_iff : ∀ route, c.hasRoute route = true ↔
    (∃ d ∈ c.docs, Route.clean route = d.route) ∨
    (∃ rel, disk.HasFile (site.join site.settings.theme.pages) rel ∧
      IsSource pageExtensions rel ∧ Route.clean route = pageRoute site rel) ∨
    ∃ dir ∈ site.settings.theme.staticDirs, ∃ rel, disk.HasFile (site.join dir) rel ∧
      (∀ name ∈ rel, name.head? ≠ some '.') ∧ Route.clean route = staticRoute site rel

/-- A catalogue that is loaded without failure is the index of the files of its site, where there are
no links and the documents directory can be listed with all that is below it. -/
theorem indexes_of_load {c : Catalog} (hdisk : disk.WellFormed) (hlinks : disk.Linkless)
    (hopen : disk.IsOpenBelow (site.join site.settings.docs.path))
    (hsite : site.settings.findings = []) (hload : (load disk site).result = .ok c) :
    c.Indexes disk site := by
  have hpath : Demand.StaysBelow site.settings.docs.path :=
    Settings.docs_demands_met hsite _ List.mem_cons_self
  obtain ⟨-, -, -, hids, hother⟩ := load_eq_ok hload
  obtain ⟨places, hnodup, hplaces, hread⟩ :=
    exists_places_of_load hdisk hopen (Path.join_ne_empty hpath.1) hload
  have hplain : ∀ q ∈ places, ∀ name ∈ q, IsPlain name :=
    fun q hq => ((hplaces q).1 hq).isPlain hdisk
  have hnames : places = c.docs.map fun d => Path.names d.path :=
    eq_map_names_of_readFrom hplain hread
  have hfrom : ∀ d ∈ c.docs, ∃ q ∈ places, ReadFrom site q d :=
    fun d hd => exists_of_mem_forall₂ hread hd
  have hpaths : (c.docs.map fun d => Path.components d.path).Nodup := by
    rw [hnames, List.Nodup, List.pairwise_map] at hnodup
    rw [List.Nodup, List.pairwise_map]
    exact hnodup.imp fun hne heq => hne (by rw [Path.names, Path.names, heq])
  have hsources : (c.docs.map (·.source)).Nodup := by
    rw [map_source_of_readFrom hread]
    exact hnodup.map_on fun q hq q' hq' h =>
      source_injective hdisk hlinks hpath ((hplaces q).1 hq) ((hplaces q').1 hq') h
  have hroute : ∀ d ∈ c.docs, ∀ route, Route.clean route = d.route → c.hasRoute route = true :=
    fun d hd route h => Catalog.hasRoute_iff.2 (.inl ⟨d, hd, h.symm⟩)
  have hclean : ∀ d ∈ c.docs, Route.clean d.route = d.route := by
    intro d hd
    obtain ⟨q, -, hq⟩ := hfrom d hd
    exact hq.route
  refine {
    ids := hids
    files := bijOn_key (hnames ▸ hnodup) fun q => hnames ▸ hplaces q
    path_eq := ?_
    paths := hpaths
    sources := hsources
    doc?_id := fun d hd => (doc?_eq_some_iff hids).2 ⟨hd, rfl⟩
    docAt?_path := fun d hd => (docAt?_eq_some_iff hpaths).2 ⟨hd, rfl⟩
    clean_route := hclean
    hasRoute_of_clean := hroute
    hasRoute_of_respells := fun d hd route h =>
      hroute d hd route ((Route.clean_eq_of_respells h).trans (hclean d hd))
    hasRoute_iff := fun route => ?_ }
  · intro d hd
    obtain ⟨q, hq, hread⟩ := hfrom d hd
    rw [hread.path, Place.names_path (hplain q hq)]
  · rw [Catalog.hasRoute_iff, hother, List.mem_append, mem_pageRoutes hdisk, mem_staticRoutes hdisk]
    simp only [eq_comm]

/-! ## Loading in order -/

theorem siteDocuments_of_files {files : List Place} {docs : List Document}
    (hdir : disk.normalize "/" (site.join site.settings.docs.path) = dir)
    (hisdir : disk.isDirectory dir = true) (hfiles : disk.filesIn dir = files)
    (hdocs : (((files.filter fun rel => !isPartial rel).map Disk.relativePath).filter
      (Path.hasExtension docExtensions)).mapM (readDocument disk site dir) = .ok docs) :
    (siteDocuments disk site).result = .ok docs := by
  rw [siteDocuments, hdir, if_pos hisdir, documents, sourcesIn, hfiles, hdocs]
  rfl

/-- Documents that are read in the order of distinct ids make the catalogue as they are. -/
theorem load_of_documents {docs : List Document} {sidebars : Sidebars}
    (hdocs : (siteDocuments disk site).result = .ok docs) (hids : docs.Pairwise (·.id < ·.id))
    (hsidebars : (siteSidebars disk site).result = .ok sidebars) :
    (load disk site).result
      = .ok { docs, sidebars, otherRoutes := pageRoutes disk site ++ staticRoutes disk site } := by
  have hindex : (Told.ofExcept ((ofDocuments docs sidebars).mapError .duplicate)).result
      = .ok { docs, sidebars } := by
    rw [ofDocuments_of_pairwise hids]
    rfl
  refine Told.result_bind_eq_ok.2 ⟨_, hdocs, Told.result_bind_eq_ok.2 ⟨_, hsidebars,
    Told.result_bind_eq_ok.2 ⟨_, hindex, Told.result_bind_eq_ok.2 ⟨(), rfl, ?_⟩⟩⟩⟩
  simp only [addRoutes, List.nil_append]
  rfl

/-- Two documents, a partial one, a hidden one and two static files, where the given directories
cannot be listed. -/
def sampleDisk (closed : List Place) : Disk where
  nodes := [(["s".toList], .directory), (["s".toList, "docs".toList], .directory),
    (["s".toList, "docs".toList, ".git".toList, "d.md".toList], .file (.text "")),
    (["s".toList, "docs".toList, "_c.md".toList], .file (.text "")),
    (["s".toList, "docs".toList, "b.md".toList], .file (.text "")),
    (["s".toList, "docs".toList, "g".toList], .directory),
    (["s".toList, "docs".toList, "g".toList, "a.MDX".toList], .file (.text "x")),
    (["s".toList, "static".toList], .directory),
    (["s".toList, "static".toList, "i.png".toList], .file (.binary [255])),
    (["s".toList, "static".toList, "old".toList], .directory),
    (["s".toList, "static".toList, "old".toList, "j.png".toList], .file (.binary [255]))]
  closed := closed

def sampleSite : Site where
  settings := { site := { title := "t", tagline := "t", url := "http://[::]" } }
  root := "/s"

theorem siteSidebars_sampleDisk (closed : List Place) :
    (siteSidebars (sampleDisk closed) sampleSite).result = .ok {} := by rfl

/-- Only the old static files cannot be listed. -/
def closedStatic : List Place := [["s".toList, "static".toList, "old".toList]]

def sampleCatalog : Catalog where
  docs := [documentOf sampleSite "/s/docs" "b.md" "", documentOf sampleSite "/s/docs" "g/a.MDX" "x"]
  otherRoutes := ["/i.png"]

theorem load_sample : (load (sampleDisk closedStatic) sampleSite).result = .ok sampleCatalog := by
  have hdocs : (siteDocuments (sampleDisk closedStatic) sampleSite).result
      = .ok sampleCatalog.docs := by
    have hfiles : (sampleDisk closedStatic).filesIn "/s/docs"
        = [["_c.md".toList], ["b.md".toList], ["g".toList, "a.MDX".toList]] :=
      List.mergeSort_of_pairwise (by decide)
    exact siteDocuments_of_files (by decide) (by decide) hfiles rfl
  have hpages : pageRoutes (sampleDisk closedStatic) sampleSite = [] := by rfl
  have hstatic : staticRoutes (sampleDisk closedStatic) sampleSite = ["/i.png"] := by
    have hdirs : sampleSite.settings.theme.staticDirs = ["static"] := by rfl
    have hdir : sampleSite.join "static" = "/s/static" := by decide
    have hfiles : (sampleDisk closedStatic).filesIn "/s/static" = [["i.png".toList]] :=
      List.mergeSort_of_pairwise (by decide)
    rw [staticRoutes, hdirs, List.flatMap_singleton, hdir, hfiles]
    decide
  rw [load_of_documents hdocs (by decide) (siteSidebars_sampleDisk _), hpages, hstatic]
  rfl

theorem indexes_sample :
    (sampleDisk closedStatic).WellFormed ∧ (sampleDisk closedStatic).Linkless ∧
      (sampleDisk closedStatic).IsOpenBelow (sampleSite.join sampleSite.settings.docs.path) ∧
      sampleSite.settings.findings = [] ∧
      (load (sampleDisk closedStatic) sampleSite).result = .ok sampleCatalog ∧
      sampleCatalog.Indexes (sampleDisk closedStatic) sampleSite := by
  have hdisk : (sampleDisk closedStatic).WellFormed := ⟨by decide, by decide⟩
  have hlinks : (sampleDisk closedStatic).Linkless := rfl
  have hopen : (sampleDisk closedStatic).IsOpenBelow
      (sampleSite.join sampleSite.settings.docs.path) := by
    intro p hfind q hq
    have hdocs : (sampleDisk closedStatic).find (sampleSite.join sampleSite.settings.docs.path)
        = .ok (["s".toList, "docs".toList], .directory) := by decide
    obtain ⟨rfl, -⟩ := Prod.mk.inj (Except.ok.inj (hdocs.symm.trans hfind))
    cases List.mem_singleton.1 hq
    decide
  have hsite : sampleSite.settings.findings = [] := by decide
  exact ⟨hdisk, hlinks, hopen, hsite, load_sample,
    indexes_of_load hdisk hlinks hopen hsite load_sample⟩

/-- The document in the directory `g` is missing where this directory cannot be listed, and no failure
says so; and two names that are not text can be shown as the same text. -/
theorem document_below_closed_missing :
    let disk := sampleDisk [["s".toList, "docs".toList, "g".toList]]
    let missing : Place := ["s".toList, "docs".toList, "g".toList, "a.MDX".toList]
    disk.WellFormed ∧ disk.Linkless ∧ sampleSite.settings.findings = [] ∧
      IsDocFile disk sampleSite missing ∧
      (∃ c, (load disk sampleSite).result = .ok c ∧ ∀ d ∈ c.docs, Path.names d.path ≠ missing) ∧
      Utf8.lossy (0xFE :: Utf8.encode ".md".toList)
        = Utf8.lossy (0xFF :: Utf8.encode ".md".toList) := by
  intro disk missing
  have hmissing : IsDocFile disk sampleSite missing := by
    refine ⟨["s".toList, "docs".toList], ["g".toList, "a.MDX".toList], .text "x", by decide, rfl,
      by decide, by decide, "a".toList, "MDX".toList, rfl, by decide⟩
  have hdocs : (siteDocuments disk sampleSite).result
      = .ok [documentOf sampleSite "/s/docs" "b.md" ""] := by
    have hfiles : disk.filesIn "/s/docs" = [["_c.md".toList], ["b.md".toList]] :=
      List.mergeSort_of_pairwise (by decide)
    exact siteDocuments_of_files (by decide) (by decide) hfiles rfl
  have hload := load_of_documents hdocs (by decide) (siteSidebars_sampleDisk _)
  have hshown {b : UInt8} (bytes : List UInt8) (hb : Utf8.next b bytes = (none, bytes)) :
      Utf8.lossy (b :: bytes) = Utf8.replacement :: Utf8.lossy bytes := by
    rw [Utf8.lossy, hb]
    rfl
  refine ⟨⟨by decide, by decide⟩, rfl, by decide, hmissing, ⟨_, hload, ?_⟩, ?_⟩
  · intro d hd
    cases List.mem_singleton.1 hd
    decide
  · rw [hshown _ rfl, hshown _ rfl]

end Catalog

end DocAtlas
