import TwinTree.Destination
import TwinTree.Proofs.FileSystem.Writing

/-!
# Looking ahead of changes

What a file system answers before it evolves, it answers afterwards, unless it found nothing before
(`Evolves.resolve_eq_or`). So a place that is safe once directories and files have been made was
safe before (`checkSafe_of_evolves`), which is what lets a check be made without changing anything.
-/
namespace TwinTree.FileSystem

variable {before after : FileSystem} {permitted : Location → Object → Prop} {path : Path}
  {followLast : Bool} {links : Nat} {segments : List Name} {here : Location}

private theorem walk_eq_or {onLink onLink' : List Name → Location → Except Failure Location}
    (evolves : Evolves permitted before after)
    (onward : ∀ segments here, onLink segments here = .error .notFound ∨
      onLink' segments here = onLink segments here) :
    before.walk onLink followLast segments here = .error .notFound ∨
      after.walk onLink' followLast segments here =
        before.walk onLink followLast segments here := by
  -- The two walks stay side by side until the first one finds something missing.
  induction segments generalizing here with
  | nil => exact .inr rfl
  | cons segment rest ih =>
    rw [walk, walk]
    have developed := evolves.developed here
    cases found : before.get? here with
    | none => exact .inl rfl
    | some object =>
      cases object with
      | directory =>
        rw [evolves.directory found]
        simp only
        split
        next => exact ih
        split
        next => exact ih
        split
        next => exact .inr rfl
        have entry := evolves.developed (segment :: here)
        cases standing : before.get? (segment :: here) with
        | none =>
          -- Something may stand there by now, which matters only where the way goes on.
          cases rest with
          | cons => exact .inl rfl
          | nil =>
            right
            rw [standing] at entry
            cases made : after.get? (segment :: here) with
            | none => rfl
            | some object =>
              rw [made] at entry
              cases entry <;> rfl
        | some object =>
          cases object with
          | link target =>
            rw [entry.link_iff.1 standing]
            simp only
            split
            next => exact .inr rfl
            next => exact onward _ _
          | _ =>
            obtain ⟨other, there, plain⟩ := entry.exists_of_not_isLink standing rfl
            rw [there]
            cases other <;> first | exact ih | cases plain
      | _ =>
        rw [found] at developed
        cases later : after.get? here with
        | none =>
          rw [later] at developed
          cases developed
        | some object =>
          rw [later] at developed
          cases developed <;> exact .inr rfl

/-- A resolution that does not find anything missing goes on to give what it gives. -/
theorem Evolves.resolve_eq_or (evolves : Evolves permitted before after) :
    before.resolve followLast links segments here = .error .notFound ∨
      after.resolve followLast links segments here =
        before.resolve followLast links segments here := by
  induction links generalizing segments here with
  | zero =>
    rw [resolve_eq_walk, resolve_eq_walk]
    exact walk_eq_or evolves fun _ _ => .inr rfl
  | succ links ih =>
    rw [resolve_eq_walk, resolve_eq_walk]
    exact walk_eq_or evolves fun _ _ => ih

theorem Evolves.locate_eq_or (evolves : Evolves permitted before after) (path : Path) :
    before.locate path followLast = .error .notFound ∨
      after.locate path followLast = before.locate path followLast := by
  rw [locate, locate, evolves.origin_eq]
  cases checkText path pathLimit with
  | error =>
    right
    simp only [bind, Except.bind]
  | ok =>
    simp only [bind, Except.bind]
    exact evolves.resolve_eq_or

/-- What a path shows may have been missing before; otherwise it has only developed. -/
theorem Evolves.lstat_cases (evolves : Evolves permitted before after) (path : Path) :
    before.lstat path = .error .notFound ∨
      (∃ failure, before.lstat path = .error failure ∧ after.lstat path = .error failure) ∨
      ∃ object object', before.lstat path = .ok object ∧ after.lstat path = .ok object' ∧
        Developed (some object) (some object') := by
  rw [lstat, lstat]
  have told : before.locate path false = .error .notFound ∨
      after.locate path false = before.locate path false := evolves.locate_eq_or path
  rcases told with missing | same
  · left
    rw [missing]
    rfl
  rw [same]
  cases before.locate path false with
  | error failure => exact .inr (.inl ⟨failure, rfl, rfl⟩)
  | ok there =>
    have developed := evolves.developed there
    cases found : before.get? there with
    | none =>
      left
      change before.require there = _
      rw [require, found]
    | some object =>
      -- Nothing is taken away, so something is still there.
      obtain ⟨object', later⟩ : ∃ object', after.get? there = some object' := by
        rw [found] at developed
        cases later : after.get? there with
        | some object' => exact ⟨object', rfl⟩
        | none =>
          rw [later] at developed
          cases developed
      rw [found, later] at developed
      exact .inr (.inr ⟨object, object', require_eq_ok_iff.2 found, require_eq_ok_iff.2 later,
        developed⟩)

/-- What is inspected without complaint once things have been made could be before. -/
theorem inspect_of_evolves {components : List Component}
    (evolves : Evolves permitted before after) (passed : after.inspect path components = .ok ()) :
    before.inspect path components = .ok () := by
  induction components generalizing path with
  | nil => rfl
  | cons component rest ih =>
    rw [inspect] at passed ⊢
    -- What was missing passed at once; what was there has been looked at both times.
    rcases evolves.lstat_cases (path.join ⟨component.toName⟩) with
      missing | ⟨failure, shown, later⟩ | ⟨object, object', shown, later, developed⟩
    · rw [missing]
    · rw [later] at passed
      rw [shown]
      cases failure <;> first | rfl | cases passed
    · rw [later] at passed
      rw [shown]
      cases developed with
      | same =>
        cases object <;> first | exact ih passed | cases passed
      | rewritten => exact ih passed

/-- A place that is safe once things have been made was safe before. -/
theorem checkSafe_of_evolves {item root : Path} (evolves : Evolves permitted before after)
    (safe : after.checkSafe item root = .ok ()) : before.checkSafe item root = .ok () := by
  have absolute : ∀ path, after.absolutize path = before.absolutize path := by
    intro path
    rw [absolutize, absolutize, evolves.working]
  rw [checkSafe, absolute, absolute] at safe
  rw [checkSafe]
  cases found : (before.absolutize item).stripStart? (before.absolutize root) with
  | none =>
    rw [found] at safe
    cases safe
  | some inner =>
    rw [found] at safe
    exact inspect_of_evolves evolves safe

end TwinTree.FileSystem
