import Watchdesk.Disk
import Watchdesk.Export.Outcome

/-!
# Saving an exported file

A file goes into the folder that the settings name, which is made if it is not there, under a name
that cannot lead out of it. What a save has done to the disk stays when it fails.
-/

namespace Watchdesk.Export

/-- Where a file is saved. -/
def Artifact.savePath (a : Artifact) (folder : String) : String := Disk.join folder a.safeName

/-- Save a file: its path. -/
def Artifact.save (a : Artifact) (folder : String) (d : Disk) : Disk × Except Fault String :=
  match d.provideFolder folder with
  | (d, .error fault) => (d, .error (.disk fault.text))
  | (d, .ok ()) =>
    match d.overwrite (a.savePath folder) a.content.toUTF8 with
    | (d, .error fault) => (d, .error (.disk fault.text))
    | (d, .ok ()) => (d, .ok (a.savePath folder))

end Watchdesk.Export
