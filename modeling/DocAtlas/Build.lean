-- SUMMARY: The build of a site: a passing check, then the manifest file.
import DocAtlas.Audit.Check
import DocAtlas.Manifest

/-! # The build

Nothing is written unless the check passes. -/

namespace DocAtlas.Site

/-- The output directory where none is given. -/
def defaultOutput : String := "build"

/-- The name of the manifest file. -/
def manifestFile : String := "site.json"

/-- Writes the manifest of a checked catalogue into the directory `dir`; gives its path. -/
def emit (disk : Disk) (site : Site) (catalog : Catalog) (dir : String) : Disk × Told String :=
  match disk.makeDirectories dir with
  | (disk, .error fault) => (disk, .fail (.outputUnmade dir fault))
  | (disk, .ok ()) =>
    let path := Path.join dir manifestFile
    match disk.write path (Manifest.ofCatalog site catalog).text with
    | .error fault => (disk, .fail (.unwritten path fault))
    | .ok disk =>
      let notice := .log "build" ("wrote " ++ site.relative path ++ " with "
        ++ Text.counted catalog.docs.length "document")
      (disk, { notices := [notice], result := .ok path })

/-- Checks a site and writes its manifest; gives the path of the manifest. -/
def build (disk : Disk) (site : Site) (lenient : Bool) (output : Option String) :
    Disk × Told String :=
  let checked := site.check disk lenient
  match checked.result with
  | .error e => (disk, { notices := checked.notices, result := .error e })
  | .ok catalog =>
    let (disk, written) := site.emit disk catalog (site.join (output.getD defaultOutput))
    (disk, { notices := checked.notices ++ written.notices, result := written.result })

end DocAtlas.Site
