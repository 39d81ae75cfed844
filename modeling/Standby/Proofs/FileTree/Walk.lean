import Standby.FileTree.Basic

/-!
# Where walks lead

A walk that does not fail passes directories and links and ends at a place (`Leads`). What it meets
on the way is there in a tree with more directories, too; and where a file has been put in the
place that a walk leads to, the same walk leads to the file, unless it has passed the place before.
-/
namespace Standby.FileTree

/-- A step to a name, which no file system refuses. -/
structure IsName (step : String) : Prop where
  /-- The step does not stay. -/
  moves : step ≠ "."
  /-- The step does not go up. -/
  goesDown : step ≠ ".."
  /-- The name is not too long. -/
  short : step.utf8ByteSize ≤ nameLimit

/-- A place, and what stands there, to which steps lead from another place, following a number of
links at most. -/
inductive Leads (tree : FileTree) (followLast : Bool) (place : Place) (node : Option FileNode) :
    Nat → Place → List String → Prop where
  /-- No more steps. -/
  | done {links : Nat} (there : tree.node? place = node) :
    Leads tree followLast place node links place []
  /-- A step that stays. -/
  | stay {links : Nat} {here : Place} {rest : List String} :
    Leads tree followLast place node links here rest →
      Leads tree followLast place node links here ("." :: rest)
  /-- A step up. -/
  | up {links : Nat} {here : Place} {rest : List String} :
    Leads tree followLast place node links here.dropLast rest →
      Leads tree followLast place node links here (".." :: rest)
  /-- A step to a directory. -/
  | enter {links : Nat} {here : Place} {step : String} {rest : List String} {mode : Nat}
    (named : IsName step) (directory : tree.node? (here ++ [step]) = some (.directory mode)) :
    Leads tree followLast place node links (here ++ [step]) rest →
      Leads tree followLast place node links here (step :: rest)
  /-- A last step to something that is not entered, or to nothing. -/
  | reach {links : Nat} {here : Place} {step : String} (named : IsName step)
    (arrives : here ++ [step] = place) (there : tree.node? place = node)
    (noDirectory : ∀ mode, node ≠ some (.directory mode))
    (unfollowed : ∀ target, node = some (.link target) → followLast = false) :
    Leads tree followLast place node links here [step]
  /-- A step to a link, which is followed. -/
  | follow {links : Nat} {here : Place} {step target : String} {rest : List String}
    (named : IsName step) (link : tree.node? (here ++ [step]) = some (.link target))
    (followed : (rest.isEmpty && !followLast) = false) :
    Leads tree followLast place node links (if (Route.ofPath target).isAbsolute then [] else here)
        ((Route.ofPath target).wholeSteps ++ rest) →
      Leads tree followLast place node (links + 1) here (step :: rest)

section Walk

variable {tree : FileTree} {followLast : Bool} {links : Nat} {here place : Place}
  {step : String} {steps rest : List String} {node : Option FileNode}

/-- A walk without steps ends where it is. -/
theorem walk_nil : tree.walk followLast links here [] = .ok (here, tree.node? here) := by
  rw [walk]

/-- A step that stays leads nowhere else. -/
theorem walk_stay :
    tree.walk followLast links here ("." :: rest) = tree.walk followLast links here rest := by
  rw [walk, if_pos rfl]

/-- A step up leads to the directory above. -/
theorem walk_up :
    tree.walk followLast links here (".." :: rest) =
      tree.walk followLast links here.dropLast rest := by
  rw [walk, if_neg (by decide), if_pos rfl]

/-- A step to a directory enters it. -/
theorem walk_enter {mode : Nat} (named : IsName step)
    (directory : tree.node? (here ++ [step]) = some (.directory mode)) :
    tree.walk followLast links here (step :: rest) =
      tree.walk followLast links (here ++ [step]) rest := by
  rw [walk, if_neg named.moves, if_neg named.goesDown, if_pos named.short]
  simp only [directory]

/-- A step to nothing is the last one, or the walk fails. -/
theorem walk_absent (named : IsName step) (absent : tree.node? (here ++ [step]) = none) :
    tree.walk followLast links here (step :: rest) =
      if rest.isEmpty then .ok (here ++ [step], none) else .error .notFound := by
  rw [walk, if_neg named.moves, if_neg named.goesDown, if_pos named.short]
  simp only [absent]

/-- A step to a file is the last one, or the walk fails. -/
theorem walk_file {bytes : ByteArray} {mode : Nat} {modified : Int} (named : IsName step)
    (file : tree.node? (here ++ [step]) = some (.file bytes mode modified)) :
    tree.walk followLast links here (step :: rest) =
      if rest.isEmpty then .ok (here ++ [step], some (.file bytes mode modified))
      else .error .notDirectory := by
  rw [walk, if_neg named.moves, if_neg named.goesDown, if_pos named.short]
  simp only [file]

/-- A last step to a link ends at the link, if links are not followed there. -/
theorem walk_link {target : String} (named : IsName step)
    (link : tree.node? (here ++ [step]) = some (.link target)) (unfollowed : followLast = false) :
    tree.walk followLast links here [step] = .ok (here ++ [step], some (.link target)) := by
  rw [walk, if_neg named.moves, if_neg named.goesDown, if_pos named.short]
  simp [link, unfollowed]

/-- Any other step to a link leads where the link does. -/
theorem walk_follow {target : String} (named : IsName step)
    (link : tree.node? (here ++ [step]) = some (.link target))
    (followed : (rest.isEmpty && !followLast) = false) :
    tree.walk followLast (links + 1) here (step :: rest) =
      tree.walk followLast links (if (Route.ofPath target).isAbsolute then [] else here)
        ((Route.ofPath target).wholeSteps ++ rest) := by
  rw [walk, if_neg named.moves, if_neg named.goesDown, if_pos named.short]
  simp only [link, followed, Bool.false_eq_true, ↓reduceIte]

/-- A walk that does not fail leads somewhere. -/
theorem leads_of_walk (found : tree.walk followLast links here steps = .ok (place, node)) :
    Leads tree followLast place node links here steps := by
  fun_induction walk tree followLast links here steps with
  | case1 links here =>
    cases found
    exact .done rfl
  | case2 links here rest ih => exact .stay (ih found)
  | case3 links here rest _ ih => exact .up (ih found)
  | case4 links here step rest moves goesDown short next absent last =>
    obtain ⟨rfl, rfl⟩ := Prod.mk.inj (Except.ok.inj found)
    rw [List.isEmpty_iff.mp last]
    exact .reach ⟨moves, goesDown, short⟩ rfl absent (by simp) (by simp)
  | case6 links here step rest moves goesDown short next mode directory ih =>
    exact .enter ⟨moves, goesDown, short⟩ directory (ih found)
  | case7 links here step rest moves goesDown short next bytes mode modified file last =>
    obtain ⟨rfl, rfl⟩ := Prod.mk.inj (Except.ok.inj found)
    rw [List.isEmpty_iff.mp last]
    exact .reach ⟨moves, goesDown, short⟩ rfl file (by simp) (by simp)
  | case9 links here step rest moves goesDown short next target link stops =>
    obtain ⟨rfl, rfl⟩ := Prod.mk.inj (Except.ok.inj found)
    obtain ⟨last, unfollowed⟩ : rest = [] ∧ followLast = false := by simpa using stops
    rw [last]
    exact .reach ⟨moves, goesDown, short⟩ rfl link (by simp) (fun _ _ => unfollowed)
  | case11 here step rest moves goesDown short next target link followed links route ih =>
    exact .follow ⟨moves, goesDown, short⟩ link (Bool.eq_false_iff.mpr followed) (ih found)
  | case5 | case8 | case10 | case12 => cases found

/-- A walk leads to what stands at a place. -/
theorem Leads.node_eq (leads : Leads tree followLast place node links here steps) :
    tree.node? place = node := by
  induction leads with
  | done there => exact there
  | reach _ _ there _ _ => exact there
  | stay _ ih | up _ ih | enter _ _ _ ih | follow _ _ _ _ ih => exact ih

end Walk

/-- A tree has become another by nothing but new directories. -/
structure Extends (before after : FileTree) : Prop where
  /-- Relative routes begin where they did. -/
  home : after.home = before.home
  /-- What stood at a place stands there still, and what is new is a directory. -/
  node : ∀ place, after.node? place = before.node? place ∨
    before.node? place = none ∧ after.node? place = some (.directory newDirectoryMode)

namespace Extends

variable {before middle after : FileTree}

/-- A tree extends itself. -/
theorem refl (tree : FileTree) : Extends tree tree := ⟨rfl, fun _ => .inl rfl⟩

/-- What extends a tree is extended in turn. -/
theorem trans (first : Extends before middle) (second : Extends middle after) :
    Extends before after := by
  refine ⟨second.home.trans first.home, fun place => ?_⟩
  rcases second.node place with same | ⟨absent, made⟩
  · rw [same]
    exact first.node place
  · rcases first.node place with same | ⟨_, there⟩
    · exact .inr ⟨same ▸ absent, made⟩
    · rw [there] at absent
      cases absent

/-- What stands at a place stays. -/
theorem keeps (grown : Extends before after) {place : Place} {node : FileNode}
    (there : before.node? place = some node) : after.node? place = some node := by
  rcases grown.node place with same | ⟨absent, -⟩
  · rw [same, there]
  · rw [there] at absent
    cases absent

/-- A walk to something leads to it in a tree with more directories, too. -/
theorem walk {followLast : Bool} {links : Nat} {here place : Place} {steps : List String}
    {node : FileNode} (grown : Extends before after)
    (leads : Leads before followLast place (some node) links here steps) :
    after.walk followLast links here steps = .ok (place, some node) := by
  have stands := grown.keeps leads.node_eq
  induction leads with
  | done => rw [walk_nil, stands]
  | stay _ ih => rw [walk_stay, ih]
  | up _ ih => rw [walk_up, ih]
  | enter named directory _ ih => rw [walk_enter named (grown.keeps directory), ih]
  | reach named arrives _ noDirectory unfollowed =>
    subst arrives
    cases node with
    | directory mode => exact absurd rfl (noDirectory mode)
    | file => rw [walk_file named stands, List.isEmpty_nil, if_pos rfl]
    | link target => rw [walk_link named stands (unfollowed target rfl)]
  | follow named link followed _ ih => rw [walk_follow named (grown.keeps link) followed, ih]

end Extends

/-- A walk to a place that was not a directory, in the tree without what stands there and in the
tree with a file there. The one finds nothing there and the other the file, unless the place is on
the way to itself, as a link that is followed before the walk ends there: then neither walk gets to
its end. -/
theorem Leads.replaced {tree : FileTree} {links : Nat} {here place : Place} {steps : List String}
    {node : Option FileNode} (leads : Leads tree false place node links here steps)
    (noDirectory : ∀ mode, node ≠ some (.directory mode)) (bytes : ByteArray) (mode : Nat)
    (modified : Int) :
    ((tree.delete place).walk false links here steps = .ok (place, none) ∧
      (tree.put place (.file bytes mode modified)).walk true links here steps =
        .ok (place, some (.file bytes mode modified))) ∨
    ((∃ target, node = some (.link target)) ∧
      (tree.delete place).walk false links here steps = .error .notFound ∧
      (tree.put place (.file bytes mode modified)).walk true links here steps =
        .error .notDirectory) := by
  have stands := leads.node_eq
  have inside : place ≠ [] := by
    rintro rfl
    exact noDirectory newDirectoryMode (stands.symm.trans rfl)
  have deleted : (tree.delete place).node? place = none := by
    rw [node?_delete _ _ _ inside, if_pos rfl]
  have written : (tree.put place (.file bytes mode modified)).node? place =
      some (.file bytes mode modified) := by
    rw [node?_put _ _ _ _ inside, if_pos rfl]
  have elsewhere {here : Place} {step : String} (apart : here ++ [step] ≠ place) :
      (tree.delete place).node? (here ++ [step]) = tree.node? (here ++ [step]) ∧
        (tree.put place (.file bytes mode modified)).node? (here ++ [step]) =
          tree.node? (here ++ [step]) := by
    rw [node?_delete _ _ _ (by simp), node?_put _ _ _ _ (by simp), if_neg apart, if_neg apart]
    exact ⟨rfl, rfl⟩
  induction leads with
  | done => exact .inl ⟨by rw [walk_nil, deleted], by rw [walk_nil, written]⟩
  | stay _ ih =>
    rw [walk_stay, walk_stay]
    exact ih
  | up _ ih =>
    rw [walk_up, walk_up]
    exact ih
  | enter named directory _ ih =>
    have apart {here : Place} {step : String} {mode : Nat}
        (directory : tree.node? (here ++ [step]) = some (.directory mode)) :
        here ++ [step] ≠ place := by
      rintro rfl
      exact noDirectory _ (stands.symm.trans directory)
    obtain ⟨without, replaced⟩ := elsewhere (apart directory)
    rw [walk_enter named (without.trans directory), walk_enter named (replaced.trans directory)]
    exact ih
  | reach named arrives _ _ _ =>
    subst arrives
    exact .inl ⟨by rw [walk_absent named deleted]; rfl, by rw [walk_file named written]; rfl⟩
  | @follow _ here step _ rest named link followed _ ih =>
    have more : rest.isEmpty = false := by simpa using followed
    by_cases passes : here ++ [step] = place
    · subst passes
      refine .inr ⟨⟨_, stands.symm.trans link⟩, ?_, ?_⟩
      · rw [walk_absent named deleted, more]
        rfl
      · rw [walk_file named written, more]
        rfl
    · obtain ⟨without, replaced⟩ := elsewhere passes
      rw [walk_follow named (without.trans link) followed,
        walk_follow named (replaced.trans link) (by simp [more])]
      exact ih

end Standby.FileTree
