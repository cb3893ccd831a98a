import TwinTree.Proofs.Destination.Overlap
import TwinTree.Proofs.FileSystem.Extension
import TwinTree.Proofs.Path.Respelling

/-!
# One directory under two spellings

Paths that are the same lead to the same directory, and what is in it is shown alike under both
spellings, as long as both texts are short enough to be accepted (`Respelled.stat`). That they lead
there stays so as a file system is extended.
-/
namespace TwinTree.FileSystem

variable {fs made : FileSystem} {path path' twin : Path} {name : Name} {location : Location}
  {links left : Nat}

/-! ### Texts that are accepted -/

theorem nul_notMem_respelled (same : path'.Same path) (absent : 0 ∉ path.bytes) :
    0 ∉ path'.bytes := by
  apply nul_notMem_of_route
  intro name member within
  rw [same.route_eq] at member
  obtain ⟨piece, _⟩ := Path.mem_names.1 (List.mem_filter.1 member).1
  exact absent (subset_of_mem_pieces piece within)

/-- Only the lengths of two spellings can make the one accepted and the other not. -/
theorem checkText_respelled {limit limit' : Nat} (same : path'.Same path)
    (short : path.bytes.length ≤ limit) (short' : path'.bytes.length ≤ limit') :
    checkText path' limit' = checkText path limit := by
  have nul : 0 ∈ path'.bytes ↔ 0 ∈ path.bytes :=
    ⟨not_imp_not.1 (nul_notMem_respelled same), not_imp_not.1 (nul_notMem_respelled (Eq.symm same))⟩
  unfold checkText
  rw [if_neg (Nat.not_lt.2 short), if_neg (Nat.not_lt.2 short')]
  simp only [List.contains_iff_mem, nul, List.isEmpty_iff, same.bytes_eq_nil_iff]

/-! ### Where two spellings lead -/

theorem origin_respelled (same : path'.Same path) : fs.origin path' = fs.origin path := by
  rw [origin, origin, same.isAbsolute_eq]

theorem leads_respelled (same : path'.Same path)
    (leads : Leads fs links path.names (fs.origin path) left location)
    (directory : fs.get? location = some .directory) :
    Leads fs links path'.names (fs.origin path') left location := by
  rw [origin_respelled same]
  exact leads.of_filter_eq directory same.route_eq.symm

theorem isDirectory_respelled (same : path'.Same path)
    (short : ∀ left location, path.bytes ≠ [] →
      Leads fs linkLimit path.names (fs.origin path) left location →
      fs.get? location = some .directory →
      path.bytes.length ≤ pathLimit ∧ path'.bytes.length ≤ pathLimit) :
    fs.isDirectory path' = fs.isDirectory path := by
  rw [Bool.eq_iff_iff, isDirectory_iff, isDirectory_iff]
  constructor
  · rintro ⟨accepted, left, location, leads, directory⟩
    have nonempty := mt same.bytes_eq_nil_iff.2 (checkText_eq_ok_iff.1 accepted).2.1
    have leads := leads_respelled (Eq.symm same) leads directory
    obtain ⟨short, short'⟩ := short left location nonempty leads directory
    exact ⟨checkText_respelled same short short' ▸ accepted, left, location, leads, directory⟩
  · rintro ⟨accepted, left, location, leads, directory⟩
    have nonempty := (checkText_eq_ok_iff.1 accepted).2.1
    obtain ⟨short, short'⟩ := short left location nonempty leads directory
    exact ⟨checkText_respelled same short short' ▸ accepted, left, location,
      leads_respelled same leads directory, directory⟩

/-- A path leads to a directory. Its text may be longer than other accesses permit. -/
def LeadsToDirectory (fs : FileSystem) (path : Path) : Prop :=
  ∃ location, fs.canonicalize path = .ok location ∧ fs.get? location = some .directory

theorem leadsToDirectory_respelled (same : path'.Same path)
    (directory : fs.isDirectory path = true) : fs.LeadsToDirectory path' := by
  obtain ⟨accepted, left, location, leads, standing⟩ := isDirectory_iff.1 directory
  obtain ⟨absent, nonempty, _⟩ := checkText_eq_ok_iff.1 accepted
  have accepted' : checkText path' path'.bytes.length = .ok () := checkText_eq_ok_iff.2
    ⟨nul_notMem_respelled same absent, mt same.bytes_eq_nil_iff.1 nonempty, Nat.le_refl _⟩
  refine ⟨location, canonicalize_eq_ok_iff.2 ⟨accepted', by simp [standing], left, ?_⟩, standing⟩
  exact (leads_steps_iff standing).2 (leads_respelled same leads standing)

/-- The same directory overlaps the same trees. -/
theorem overlaps_respelled (same : fs.canonicalize path' = fs.canonicalize path)
    (found : fs.canonicalize path = .ok location) :
    fs.overlaps path' twin = fs.overlaps path twin := by
  simp only [overlaps, normalize, same, found]

theorem readDirectory_of_leads (directory : fs.get? location = some .directory)
    (leads : Leads fs linkLimit path.names (fs.origin path) left location) :
    fs.readDirectory path = (checkText path pathLimit).map fun _ => fs.children location := by
  have resolved : fs.resolve true linkLimit path.steps (fs.origin path) = .ok location :=
    resolve_eq_ok_iff.2 ⟨left, (leads_steps_iff directory).2 leads⟩
  rw [readDirectory, locate]
  cases checkText path pathLimit with
  | error => rfl
  | ok => simp [bind, Except.bind, Except.map, resolved, require, directory, pure, Except.pure]

/-- Two paths that are the same and lead to the directory at a location. -/
structure Respelled (fs : FileSystem) (location : Location) (path path' : Path) : Prop where
  same : path'.Same path
  directory : fs.get? location = some .directory
  reached : ∃ left, Leads fs linkLimit path.names (fs.origin path) left location

namespace Respelled

variable (respelled : Respelled fs location path path')

include respelled

theorem kept (extended : Extends fs made) : Respelled made location path path' where
  same := respelled.same
  directory := extended.directory respelled.directory
  reached := by
    obtain ⟨left, leads⟩ := respelled.reached
    exact ⟨left, extended.origin_eq path ▸ extended.leads leads⟩

theorem enter (orderly : fs.Orderly) (directory : fs.get? (name :: location) = some .directory) :
    Respelled fs (name :: location) (path.join ⟨name⟩) (path'.join ⟨name⟩) := by
  obtain ⟨plain, short⟩ := orderly.holds directory name List.mem_cons_self
  obtain ⟨left, leads⟩ := respelled.reached
  refine ⟨respelled.same.join plain, directory, left, ?_⟩
  rw [Path.names_join_name plain, origin_join_name plain]
  refine leads.append (by simp [respelled.directory]) ?_
  exact .enter respelled.directory plain.ne_dot plain.ne_dotDot short directory rfl .done

/-! ### What two spellings show -/

theorem readDirectory (short : path.bytes.length ≤ pathLimit)
    (short' : path'.bytes.length ≤ pathLimit) :
    fs.readDirectory path' = fs.readDirectory path := by
  obtain ⟨left, leads⟩ := respelled.reached
  have leads' := leads_respelled respelled.same leads respelled.directory
  rw [readDirectory_of_leads respelled.directory leads,
    readDirectory_of_leads respelled.directory leads',
    checkText_respelled respelled.same short short']

theorem eq_children {entries : List (Name × Object)} (read : fs.readDirectory path = .ok entries) :
    entries = fs.children location := by
  obtain ⟨left, leads⟩ := respelled.reached
  rw [readDirectory_of_leads respelled.directory leads] at read
  cases checked : checkText path pathLimit with
  | error =>
    rw [checked] at read
    cases read
  | ok =>
    rw [checked] at read
    exact (Except.ok.inj read).symm

variable (plain : IsPlain name) (short : (path.join ⟨name⟩).bytes.length ≤ pathLimit)
  (short' : (path'.join ⟨name⟩).bytes.length ≤ pathLimit)

include plain short short'

theorem stat : fs.stat (path'.join ⟨name⟩) = fs.stat (path.join ⟨name⟩) := by
  obtain ⟨left, leads⟩ := respelled.reached
  have leads' := leads_respelled respelled.same leads respelled.directory
  rw [stat_join plain leads, stat_join plain leads',
    checkText_respelled (respelled.same.join plain) short short']

theorem isDirectory : fs.isDirectory (path'.join ⟨name⟩) = fs.isDirectory (path.join ⟨name⟩) := by
  rw [FileSystem.isDirectory, FileSystem.isDirectory, respelled.stat plain short short']

theorem copyMode (destination : Path) : fs.copyMode (path'.join ⟨name⟩) destination =
    fs.copyMode (path.join ⟨name⟩) destination := by
  rw [FileSystem.copyMode, FileSystem.copyMode, respelled.stat plain short short']

end Respelled

end TwinTree.FileSystem
