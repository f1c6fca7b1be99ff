-- SUMMARY: Links: the path before a query and a fragment, and the kinds that the start and the end of a link decide.
import DocAtlas.Link
import DocAtlas.Proofs.Text

/-! # Links and their kinds

The path of a link is what stands before its query and its fragment. A leading
slash makes a link one from the site root, and the end of the path makes any
other checked link one to a Markdown file. -/

namespace DocAtlas.Link

open Text

/-! ## Parts -/

/-- What follows the path of a link: a query and a fragment, where they are given. -/
def suffix (query fragment : Option (List Char)) : List Char :=
  query.elim [] ('?' :: ·) ++ fragment.elim [] ('#' :: ·)

theorem pathPart_eq_takeWhile (link : List Char) :
    pathPart link = link.takeWhile fun c => c ≠ '#' && c ≠ '?' := by
  induction link with
  | nil => rfl
  | cons c link ih =>
    unfold pathPart at ih ⊢
    by_cases hhash : c = '#'
    · simp [hhash]
    · by_cases hquery : c = '?'
      · simp [hquery]
      · simpa [hhash, hquery] using ih

/-- The text in front of a link is its path if it has no query and no fragment, and what follows it
starts with one, or there is nothing. -/
theorem pathPart_append_eq_iff {path tail : List Char} :
    pathPart (path ++ tail) = path ↔
      '#' ∉ path ∧ '?' ∉ path ∧ ∀ c, tail.head? = some c → c = '#' ∨ c = '?' := by
  rw [pathPart_eq_takeWhile]
  induction path with
  | nil =>
    cases tail with
    | nil => simp
    | cons c tail => by_cases hhash : c = '#' <;> by_cases hquery : c = '?' <;> simp [hhash, hquery]
  | cons c path ih =>
    by_cases hstop : c = '#' ∨ c = '?'
    · rcases hstop with rfl | rfl <;> simp
    · obtain ⟨hhash, hquery⟩ := not_or.1 hstop
      simpa [hhash, hquery, Ne.symm hhash, Ne.symm hquery] using ih

theorem pathPart_append_cons {path : List Char} {c : Char} (hhash : '#' ∉ path) (hquery : '?' ∉ path)
    (hc : c = '#' ∨ c = '?') (tail : List Char) : pathPart (path ++ c :: tail) = path := by
  rw [pathPart_append_eq_iff]
  exact ⟨hhash, hquery, fun d hd => Option.some.inj hd ▸ hc⟩

theorem pathPart_eq_self {text : List Char} (hhash : '#' ∉ text) (hquery : '?' ∉ text) :
    pathPart text = text := by
  have hpath : pathPart (text ++ []) = text := pathPart_append_eq_iff.2 ⟨hhash, hquery, by simp⟩
  rwa [List.append_nil] at hpath

theorem path_eq_self {link : String} (hhash : '#' ∉ link.toList) (hquery : '?' ∉ link.toList) :
    path link = link := by
  rw [path, pathPart_eq_self hhash hquery, String.ofList_toList]

theorem pathPart_append_suffix {text : List Char} (hhash : '#' ∉ text) (hquery : '?' ∉ text)
    (query fragment : Option (List Char)) : pathPart (text ++ suffix query fragment) = text := by
  match query, fragment with
  | some _, _ => exact pathPart_append_cons hhash hquery (.inr rfl) _
  | none, some _ => exact pathPart_append_cons hhash hquery (.inl rfl) _
  | none, none =>
    rw [suffix, Option.elim_none, Option.elim_none, List.append_nil, List.append_nil]
    exact pathPart_eq_self hhash hquery

theorem isMarkdownPath_iff {link : String} :
    isMarkdownPath link = true ↔
      ".md".toList <:+ lower (pathPart link.toList) ∨ ".mdx".toList <:+ lower (pathPart link.toList) := by
  simp only [isMarkdownPath, Bool.or_eq_true, endsWith_iff]

/-! ## Kinds -/

/-- An external link starts with a scheme and a colon. -/
theorem isExternal_iff {link : String} :
    isExternal link = true ↔ ∃ scheme rest, link.toList = scheme ++ ':' :: rest ∧ scheme ≠ [] ∧
      ∀ c ∈ scheme, isSchemeChar c = true := by
  unfold isExternal
  constructor
  · intro h
    split at h
    next scheme rest hsplit =>
      obtain ⟨hlink, -⟩ := splitOnce_eq_some_iff.1 hsplit
      exact ⟨scheme, rest, hlink, by simpa using h⟩
    next => cases h
  · rintro ⟨scheme, rest, hlink, hne, hscheme⟩
    have hcolon : ':' ∉ scheme := fun hmem => by cases hscheme ':' hmem
    rw [splitOnce_eq_some_iff.2 ⟨hlink, hcolon⟩]
    simpa [hne] using hscheme

theorem isExternal_append {front : List Char} (h : isExternal (String.ofList front) = true)
    (tail : List Char) : isExternal (String.ofList (front ++ tail)) = true := by
  obtain ⟨scheme, rest, hfront, hscheme⟩ := isExternal_iff.1 h
  rw [String.toList_ofList] at hfront
  exact isExternal_iff.2 ⟨scheme, rest ++ tail, by simp [hfront], hscheme⟩

/-- What follows a character that no scheme has does not make a link external. -/
theorem isExternal_append_cons {c : Char} (hscheme : isSchemeChar c = false) (hcolon : c ≠ ':')
    (front tail : List Char) :
    isExternal (String.ofList (front ++ c :: tail)) = isExternal (String.ofList front) := by
  rw [Bool.eq_iff_iff]
  constructor
  · intro h
    obtain ⟨scheme, rest, hlink, hne, hchars⟩ := isExternal_iff.1 h
    have hmem : c ∉ scheme ++ [':'] := by
      intro hmem
      rcases List.mem_append.1 hmem with hmem | hmem
      · rw [hchars c hmem] at hscheme
        cases hscheme
      · exact hcolon (List.mem_singleton.1 hmem)
    have hlead : scheme ++ [':'] <+: front ++ c :: tail := ⟨rest, by simpa using hlink.symm⟩
    obtain ⟨rest, hfront⟩ := isPrefix_of_not_mem hmem hlead
    exact isExternal_iff.2 ⟨scheme, rest, by simpa using hfront.symm, hne, hchars⟩
  · exact fun h => isExternal_append h _

/-- A link that stays on its page. -/
def IsAnchor (link : List Char) : Prop := ['#'] <+: link ∨ ['.', '/', '#'] <+: link

instance (link : List Char) : Decidable (IsAnchor link) :=
  inferInstanceAs (Decidable (['#'] <+: link ∨ ['.', '/', '#'] <+: link))

theorem not_isAnchor_slash (rest : List Char) : ¬ IsAnchor ('/' :: rest) := by
  rintro (⟨anchor, hanchor⟩ | ⟨anchor, hanchor⟩) <;> cases hanchor

/-- The questions that decide the kind of a link, in their order. -/
theorem kind_eq (link : String) :
    kind link =
      if isExternal link then .external
      else if IsAnchor link.toList then .fragment
      else if link.toList.head? = some '/' then .siteRoot
      else if isMarkdownPath link then .markdownFile
      else .relative := by
  unfold kind classify
  split
  next => rfl
  next =>
    split
    next anchor hlink => rw [if_pos (.inl ⟨anchor, hlink.symm⟩)]
    next anchor hlink => rw [if_pos (.inr ⟨anchor, hlink.symm⟩)]
    next rest hlink =>
      have hanchor := not_isAnchor_slash rest
      rw [hlink, if_neg hanchor]
      rfl
    next hhash hdots hslash =>
      have hanchor : ¬ IsAnchor link.toList := by
        rintro (⟨anchor, hanchor⟩ | ⟨anchor, hanchor⟩)
        · exact hhash anchor hanchor.symm
        · exact hdots anchor hanchor.symm
      have hhead : link.toList.head? ≠ some '/' := by
        intro hhead
        obtain ⟨rest, hrest⟩ := List.head?_eq_some_iff.1 hhead
        exact hslash rest hrest
      rw [if_neg hanchor, if_neg hhead]
      split <;> rfl

theorem kind_congr {link link' : String} (hexternal : isExternal link = isExternal link')
    (hanchor : IsAnchor link.toList ↔ IsAnchor link'.toList)
    (hslash : link.toList.head? = some '/' ↔ link'.toList.head? = some '/')
    (hmarkdown : isMarkdownPath link = isMarkdownPath link') : kind link = kind link' := by
  rw [kind_eq, kind_eq, hexternal, hmarkdown]
  simp only [hanchor, hslash]

theorem kind_of_slash {link : String} (h : link.toList.head? = some '/') : kind link = .siteRoot := by
  obtain ⟨rest, hlink⟩ := List.head?_eq_some_iff.1 h
  have hexternal : isExternal link = false := by
    have hfront := @isExternal_append_cons '/' rfl (by decide) [] rest
    rwa [List.nil_append, ← hlink, String.ofList_toList] at hfront
  have hanchor : ¬ IsAnchor link.toList := by
    rw [hlink]
    exact not_isAnchor_slash rest
  rw [kind_eq, hexternal, if_neg (by decide), if_neg hanchor, if_pos h]

theorem slash_of_kind {link : String} (h : kind link = .siteRoot) : link.toList.head? = some '/' := by
  by_contra hslash
  rw [kind_eq, if_neg hslash] at h
  split_ifs at h

theorem head?_path {link : String} (h : link.toList.head? = some '/') :
    (path link).toList.head? = some '/' := by
  obtain ⟨rest, hlink⟩ := List.head?_eq_some_iff.1 h
  simp [path, pathPart, hlink]

/-- A link that does not start at the site root and ends like a Markdown file is one, unless it is
not checked at all. -/
theorem kind_of_isMarkdownPath {link : String} (h : link.toList.head? ≠ some '/')
    (hmarkdown : isMarkdownPath link = true) :
    kind link = .external ∨ kind link = .fragment ∨ kind link = .markdownFile := by
  rw [kind_eq, if_neg h, if_pos hmarkdown]
  split_ifs <;> simp

end DocAtlas.Link
