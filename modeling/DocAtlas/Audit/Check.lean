-- SUMMARY: The check of a site: its catalogue is loaded, its references resolved, the policies applied.
import DocAtlas.Audit.Reference
import DocAtlas.Catalog.Load

/-! # The check -/

namespace DocAtlas.Site

/-- What the policies make of a report. -/
def judge (report : Report) (policies : LinkPolicies) : Told PolicyOutcome :=
  let (notices, result) := report.apply policies
  { notices, result := result.mapError .broken }

/-- Loads the catalogue of a site and checks every reference; `lenient` turns failures into
warnings. -/
def check (disk : Disk) (site : Site) (lenient : Bool) : Told Catalog := do
  let catalog ← Catalog.load disk site
  Told.tell (.log "check" ("checking " ++ Text.counted catalog.docs.length "document" ++ " and "
    ++ Text.counted catalog.sidebars.size "sidebar"))
  let links := site.settings.links
  let report := (Surroundings.mk site catalog disk).report
  let outcome ← judge report (if lenient then links.softened else links)
  Told.tell (.log "check" outcome.shown)
  if outcome.ignored > 0 then
    Told.tell (.detail "check" ("ignored " ++ Text.counted outcome.ignored "broken link"))
  return catalog

end DocAtlas.Site
