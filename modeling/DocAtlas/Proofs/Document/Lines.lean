-- SUMMARY: The links of a document are those of its body, each with its line in the source file.
import DocAtlas.Catalog.Load
import DocAtlas.Proofs.Document.FrontMatter
import DocAtlas.Proofs.Markdown.Marks
import Mathlib.Data.List.Forall2

/-! # Lines of links

The line of a link is put together from the newlines ahead of the body and those
ahead of the link in the body. It is the line of the source file in which the
link starts: one more than the newlines in all bytes of the file before it. -/

namespace DocAtlas

namespace Text.Utf8

/-- The number of bytes of a text. -/
def byteLength (cs : List Char) : Nat := (encode cs).length

theorem byteLength_append (cs ds : List Char) :
    byteLength (cs ++ ds) = byteLength cs + byteLength ds := by
  simp only [byteLength, encode, List.flatMap_append, List.length_append]

end Text.Utf8

theorem Text.newlines_append (cs ds : List Char) :
    newlines (cs ++ ds) = newlines cs + newlines ds :=
  List.count_append

open Text Utf8

theorem FrontMatter.exists_front (source : List Char) :
    ∃ front, source = front ++ (FrontMatter.split source).2 := by
  rcases split_cases source with ⟨⟨l⟩⟩ | hwhole
  · obtain ⟨front, hfront⟩ := l.body_suffix
    exact ⟨front, by rw [l.split_eq, hfront]⟩
  · exact ⟨[], by rw [hwhole]; rfl⟩

namespace DocLink

open Markdown (Event)

/-- A link or an image that a document lists: it has a destination, and that is no mail address. -/
def IsListed (e : Event) : Prop := e.mail = false ∧ e.dest ≠ []

instance : DecidablePred IsListed := fun _ => inferInstanceAs (Decidable (_ ∧ _))

/-- The link tells what the event in the body is and in which line of the source it starts. -/
structure Reports (source body : List Char) (e : Event) (l : DocLink) : Prop where
  dest_eq : l.dest.toList = e.dest
  image_eq : l.image = e.image
  /-- The event starts inside the body. -/
  isMark : Markdown.IsMark body e.start
  /-- The bytes of the source before the event are those of whole characters, and the line is one
  more than the newlines among them. -/
  line_eq : ∃ before, before <+: source ∧
    byteLength before = byteLength source - byteLength body + byteLength (body.take e.start) ∧
    l.line = 1 + newlines before

theorem reports_ofEvent {source front body : List Char} (hsource : source = front ++ body)
    {e : Event} (he : Markdown.IsMark body e.start) :
    Reports source body e (ofEvent body (newlines front) e) where
  dest_eq := String.toList_ofList
  image_eq := rfl
  isMark := he
  line_eq := by
    subst hsource
    refine ⟨front ++ body.take e.start, ?_, ?_, ?_⟩
    · exact (List.prefix_append_right_inj front).2 (List.take_prefix e.start body)
    · rw [byteLength_append, byteLength_append, Nat.add_sub_cancel]
    · rw [newlines_append, Nat.add_comm]
      rfl

theorem ofMarkdown_eq (body : List Char) (before : Nat) :
    ofMarkdown body before = ((Markdown.events body).filter (IsListed ·)).map (ofEvent body before) := by
  have hlisted (e : Event) : (!e.mail && !e.dest.isEmpty) = decide (IsListed e) := by
    rw [Bool.eq_iff_iff, decide_eq_true_iff]
    simp [IsListed]
  simp only [ofMarkdown, hlisted]

end DocLink

namespace Catalog

/-- The lines ahead of the body are those of the front matter. -/
theorem links_eq_ofMarkdown (site : Site) (dir rel source : String) {front : List Char}
    (hsource : source.toList = front ++ (FrontMatter.split source.toList).2) :
    (documentOf site dir rel source).links =
      DocLink.ofMarkdown (FrontMatter.split source.toList).2 (newlines front) := by
  have hfront : source.toList.take
      (source.toList.length - (FrontMatter.split source.toList).2.length) = front := by
    generalize (FrontMatter.split source.toList).2 = body at hsource ⊢
    rw [hsource, List.length_append, Nat.add_sub_cancel, List.take_left]
  rw [← hfront]
  rfl

/-- A document has one link for each listed link or image of its body, in their order, and each has
the line of the source in which it starts. The body is no longer than the source. -/
theorem documentOf_links (site : Site) (dir rel source : String) :
    let body := (FrontMatter.split source.toList).2
    byteLength body ≤ byteLength source.toList ∧
      List.Forall₂ (DocLink.Reports source.toList body)
        ((Markdown.events body).filter (DocLink.IsListed ·))
        (documentOf site dir rel source).links := by
  intro body
  obtain ⟨front, hsource⟩ := FrontMatter.exists_front source.toList
  constructor
  · rw [hsource, byteLength_append]
    exact Nat.le_add_left _ _
  · rw [links_eq_ofMarkdown site dir rel source hsource, DocLink.ofMarkdown_eq,
      List.forall₂_map_right_iff, List.forall₂_same]
    intro e he
    exact DocLink.reports_ofEvent hsource (Markdown.isMark_of_mem_events (List.mem_filter.1 he).1)

-- The mail address is not listed, and a character of two bytes changes no line.
example : (DocLink.ofMarkdown "é<a@b.c>\n![](d)".toList 3).map (·.line) = [5] := by
  cbv

end Catalog

end DocAtlas
