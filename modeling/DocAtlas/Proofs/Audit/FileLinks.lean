-- SUMMARY: Every document can be linked from every document by its file, in any percent-encoded spelling of the way there.
import DocAtlas.Proofs.Audit.Exactness
import DocAtlas.Proofs.Catalog.Sources
import DocAtlas.Proofs.Encoding
import DocAtlas.Proofs.Link

/-! # Links to document files

A relative path that leads from the directory of one document to the file of
another one resolves as a link, once the characters that links read otherwise
are percent-encoded. -/

namespace DocAtlas

open Text

/-! ## Links as written -/

namespace Link

/-- The characters of a path that a link would not read as part of the path. -/
def reserved : List Char := ['%', '#', '?', ':']

variable {text encoded : List Char}

theorem pathPart_encoded (h : Percent.Encodes reserved text encoded)
    (query fragment : Option (List Char)) :
    pathPart (encoded ++ suffix query fragment) = encoded := by
  have hhash : '#' ∉ encoded := h.not_mem (by decide) (by decide) (by decide)
  have hquery : '?' ∉ encoded := h.not_mem (by decide) (by decide) (by decide)
  exact pathPart_append_suffix hhash hquery query fragment

/-- A path part that ends with the extension of documents is that of a Markdown file. -/
theorem isMarkdownPath_of_suffix {link : String} {ext : List Char}
    (hext : String.ofList (lower ext) ∈ Catalog.docExtensions)
    (h : '.' :: ext <:+ pathPart link.toList) : isMarkdownPath link = true := by
  have hlower : '.' :: lower ext <:+ lower (pathPart link.toList) := h.map Char.toLower
  rw [isMarkdownPath_iff]
  rw [Catalog.docExtensions, List.mem_cons, List.mem_singleton] at hext
  rcases hext with hext | hext
  · rw [← String.toList_ofList (l := lower ext), hext] at hlower
    exact .inl hlower
  · rw [← String.toList_ofList (l := lower ext), hext] at hlower
    exact .inr hlower

end Link

/-! ## Targets -/

namespace Surroundings

open Catalog

variable {disk : Disk} {site : Site} {catalog : Catalog} {d₁ d₂ : Document}

/-- A relative path that leads to the file of a document names that document. -/
theorem namesDocument_of_leads {path : String} (hdisk : disk.WellFormed)
    (hload : (load disk site).result = .ok catalog) (h₁ : d₁ ∈ catalog.docs)
    (h₂ : d₂ ∈ catalog.docs) (hrelative : Path.isAbsolute path = false)
    (hleads : Path.Leads (Path.names d₁.path).dropLast (splitOn '/' path.toList)
      (Path.names d₂.path)) :
    NamesDocument ⟨site, catalog, disk⟩ d₁ path := by
  obtain ⟨p₁, rel₁, source₁, hmade₁⟩ := exists_madeFrom hdisk hload h₁
  obtain ⟨p₂, rel₂, source₂, hmade₂⟩ := exists_madeFrom hdisk hload h₂
  rw [hmade₁.names_path, hmade₂.names_path] at hleads
  have hne : p₁ ++ rel₁ ≠ [] := fun h => hmade₁.rel_ne_nil (List.append_eq_nil_iff.1 h).2
  have hdir : ∀ name ∈ (p₁ ++ rel₁).dropLast, IsPlain name :=
    fun name hn => hmade₁.isPlain name (List.dropLast_subset _ hn)
  have hparent : Path.parent? d₁.path = some (Place.path (p₁ ++ rel₁).dropLast) := by
    rw [hmade₁.path_eq, Place.parent?_path hmade₁.isPlain hne]
  have hfile : fileFrom d₁ path = some d₂.path := by
    rw [fileFrom, hparent, Option.bind_some, Place.clean_join_path hdir hrelative hleads,
      hmade₂.path_eq]
  exact ⟨d₂.path, hfile, d₂, h₂, rfl⟩

/-- A link from one document to the file of another one adds nothing to the report. The path to the
file is written with all reserved characters percent-encoded, and any others but slashes; the
extension of the file stays at its end. A query and a fragment may follow. -/
theorem file_link_unreported {path encoded ext : List Char} (hdisk : disk.WellFormed)
    (hload : (load disk site).result = .ok catalog) (h₁ : d₁ ∈ catalog.docs)
    (h₂ : d₂ ∈ catalog.docs) (hrelative : path.head? ≠ some '/')
    (hleads : Path.Leads (Path.names d₁.path).dropLast (splitOn '/' path) (Path.names d₂.path))
    (hencoded : Percent.Encodes Link.reserved path encoded)
    (hext : Path.extension? d₂.path = some ext) (hkept : '.' :: ext <:+ encoded)
    (query fragment : Option (List Char)) (image : Bool) (line : Nat) :
    (Reference.document d₁
      ⟨String.ofList (encoded ++ Link.suffix query fragment), image, line⟩).broken?
        ⟨site, catalog, disk⟩ = none := by
  obtain ⟨_, _, _, hmade₂⟩ := exists_madeFrom hdisk hload h₂
  obtain ⟨_, hext', hlower⟩ := hmade₂.extension?_path
  obtain rfl := Option.some.inj (hext.symm.trans hext')
  have hpart := Link.pathPart_encoded hencoded query fragment
  have hstart : (encoded ++ Link.suffix query fragment).head? ≠ some '/' := by
    obtain ⟨front, rfl⟩ := hkept
    have hhead := hencoded.head?_ne_slash hrelative
    simpa [List.head?_append] using hhead
  have hmarkdown : Link.isMarkdownPath (String.ofList (encoded ++ Link.suffix query fragment)) = true :=
    Link.isMarkdownPath_of_suffix hlower (by rwa [String.toList_ofList, hpart])
  have hdecoded : Percent.decode (Link.path (String.ofList (encoded ++ Link.suffix query fragment)))
      = String.ofList path := by
    rw [Link.path, String.toList_ofList, hpart, hencoded.decode_eq (by decide)]
  rw [Reference.broken?_eq, if_pos]
  rcases Link.kind_of_isMarkdownPath (by rwa [String.toList_ofList]) hmarkdown with
    hkind | hkind | hkind
  · exact .external hkind
  · exact .fragment hkind
  · refine .markdownFile hkind ?_
    rw [hdecoded]
    refine namesDocument_of_leads hdisk hload h₁ h₂ ?_ (by rwa [String.toList_ofList])
    simpa [Path.isAbsolute] using hrelative

/-- From `a.md`, by a detour, to a file whose name has blanks and reserved characters. -/
theorem file_link_unreported_odd :
    oddDisk.WellFormed ∧ (load oddDisk (oddSite "/")).result = .ok (oddCatalog "/") ∧
      Path.Leads ["s".toList, "docs".toList] (splitOn '/' "g/../g/ü: 1%.MDX".toList)
        ["s".toList, "docs".toList, "g".toList, "ü: 1%.MDX".toList] ∧
      Percent.Encodes Link.reserved "g/../g/ü: 1%.MDX".toList
        "g/../g/%C3%bc%3A 1%25.MDX".toList ∧
      (Reference.document (documentOf (oddSite "/") "/s/docs" "a.md" "")
        ⟨"g/../g/%C3%bc%3A 1%25.MDX?v=1#a:b", true, 1⟩).broken?
          ⟨oddSite "/", oddCatalog "/", oddDisk⟩ = none := by
  have hdisk : oddDisk.WellFormed := ⟨by decide, by decide⟩
  have hleads : Path.Leads ["s".toList, "docs".toList] (splitOn '/' "g/../g/ü: 1%.MDX".toList)
      ["s".toList, "docs".toList, "g".toList, "ü: 1%.MDX".toList] := by
    have hsplit : splitOn '/' "g/../g/ü: 1%.MDX".toList
        = ["g".toList, ['.', '.'], "g".toList, "ü: 1%.MDX".toList] := by decide
    rw [hsplit]
    exact .down (by decide) (.up (.down (by decide) (.down (by decide) .here)))
  have hencoded : Percent.Encodes Link.reserved "g/../g/ü: 1%.MDX".toList
      "g/../g/%C3%bc%3A 1%25.MDX".toList := by
    refine .keep (by decide) (.keep (by decide) (.keep (by decide) (.keep (by decide)
      (.keep (by decide) (.keep (by decide) (.keep (by decide) ?_))))))
    refine @Percent.Encodes.escape _ 'ü' ['%', 'C', '3', '%', 'b', 'c'] _ _ (by decide)
      (.cons rfl rfl (.cons rfl rfl .nil)) ?_
    refine @Percent.Encodes.escape _ ':' ['%', '3', 'A'] _ _ (by decide) (.cons rfl rfl .nil) ?_
    refine .keep (by decide) (.keep (by decide) ?_)
    refine @Percent.Encodes.escape _ '%' ['%', '2', '5'] _ _ (by decide) (.cons rfl rfl .nil) ?_
    exact @Percent.Encodes.refl _ ['.', 'M', 'D', 'X'] (by simp [Link.reserved])
  have hext : Path.extension? (documentOf (oddSite "/") "/s/docs" "g/ü: 1%.MDX" "").path
      = some "MDX".toList := by decide
  refine ⟨hdisk, load_odd "/", hleads, hencoded, ?_⟩
  exact file_link_unreported hdisk (load_odd "/") List.mem_cons_self
    (List.mem_cons_of_mem _ List.mem_cons_self) (by decide) hleads hencoded hext (by decide)
    (some "v=1".toList) (some "a:b".toList) true 1

end Surroundings

end DocAtlas
