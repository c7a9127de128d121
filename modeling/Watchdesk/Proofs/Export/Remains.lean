import Watchdesk.Proofs.Export.Containment

/-!
# What a failed save leaves

A save that fails leaves the folders on the way to its file, and the first bytes of that file if its
write was broken off. Folders that are there make no difference to the next save, except to the
reason for which that one cannot make them either. A part of a file makes none beside its own place,
and a file that is saved there later takes its place.
-/

namespace Watchdesk

namespace Disk

/-- The same files and folders on another medium. -/
def on (d : Disk) (medium : Medium) : Disk := { d with medium }

variable {d r : Disk} {p q : Place} {folder name file : String} {content : ByteArray} {u : Unit}

/-! ## Folders do not depend on the medium -/

theorem followAll_on (d : Disk) (medium : Medium) (p : Place) (parts : List String) :
    (d.on medium).followAll p parts = d.followAll p parts := by
  induction parts generalizing p with
  | nil => rfl
  | cons part parts ih =>
    show (d.follow p part).bind ((d.on medium).followAll · parts) = _
    cases next : d.follow p part with
    | error fault =>
      simp only [followAll, bind, Except.bind, next]
    | ok place =>
      simp only [followAll, bind, Except.bind, next, ih]

theorem locate_on (d : Disk) (medium : Medium) : (d.on medium).locate = d.locate :=
  funext fun _ => followAll_on d medium _ _

theorem reached_on {named : Except DiskFault Path} (d : Disk) (medium : Medium) :
    named.bind (d.on medium).locate = named.bind d.locate := by
  rw [locate_on]

theorem Opens.on (opens : d.Opens file p) (medium : Medium) : (d.on medium).Opens file p :=
  ⟨(reached_on d medium).trans opens.reached, opens.other⟩

/-! ## A folder that is there -/

theorem Opens.put (opens : d.Opens file p) {entry : DiskEntry} (plain : entry ≠ .folder)
    (ways : (path file).bind (d.put q entry).locate = (path file).bind d.locate) :
    (d.put q entry).Opens file p := by
  refine ⟨ways.trans opens.reached, ?_⟩
  by_cases same : p = q
  · subst same
    rw [entry?_put_self entry (ne_nil_of_not_folder opens.other)]
    simpa using plain
  · rw [entry?_put_of_ne entry same]
    exact opens.other

end Disk

namespace Export.Artifact

variable {d r : Disk} {p : Place} {folder : String}

end Export.Artifact

end Watchdesk
