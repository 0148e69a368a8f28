import FaultGate.Maintenance

/-!
# Flag files come and go

Whether a flag file exists is asked of a tree that anybody may change. Two things are
expected of the answer: after the file was created it exists, and after it was removed it
does not, wherever its path starts and whichever links lie on the way.

Both come from comparing a walk in two trees, one of which has all that the other
has. A walk that finds something finds the same in the larger tree, because on its way it
has only asked for what is there; and a walk that ends where something could be created
finds what the larger tree has at that place. The walks go through a link by starting
anew, so each comparison is made for the names first, with a comparison of what lies behind
the links as its premise, and then for the number of links.
-/

namespace FaultGate

namespace FileTree

variable {t u : FileTree} {place new : Place} {names : List String} {path : String}

/-! ## What stands where -/

theorem node?_of_not_home (h : place.isPrefixOf t.home = false) :
    t.node? place = t.nodes.lookup place := by
  rw [node?, h, if_neg (by decide)]

theorem not_home_of_vacant (h : t.node? place = none) : place.isPrefixOf t.home = false := by
  cases hhome : place.isPrefixOf t.home with
  | false => rfl
  | true =>
      rw [node?, hhome, if_pos rfl] at h
      cases h

theorem node?_insert_self (node : Node) (h : t.node? place = none) :
    (t.insert place node).node? place = some node := by
  have hhome : place.isPrefixOf t.home = false := not_home_of_vacant h
  rw [node?_of_not_home (t := t.insert place node) hhome, insert, List.lookup_cons_self]

theorem node?_insert_of_ne (node : Node) (h : place ≠ new) :
    (t.insert new node).node? place = t.node? place := by
  rw [node?, node?, insert, List.lookup_cons, beq_eq_false_iff_ne.mpr h]

theorem lookup_filter_not (p : Place → Bool) (nodes : List (Place × Node)) (place : Place) :
    (nodes.filter fun e => !p e.1).lookup place =
      if p place then none else nodes.lookup place := by
  induction nodes with
  | nil => rw [List.filter_nil, List.lookup_nil, ite_self]
  | cons e nodes ih =>
      obtain ⟨other, node⟩ := e
      cases hp : p other with
      | true =>
          rw [List.filter_cons_of_neg (by simp [hp]), ih, List.lookup_cons]
          by_cases heq : place = other
          · rw [heq, hp, if_pos rfl, if_pos rfl]
          · rw [beq_eq_false_iff_ne.mpr heq]
      | false =>
          rw [List.filter_cons_of_pos (by simp [hp]), List.lookup_cons, List.lookup_cons, ih]
          by_cases heq : place = other
          · simp only [heq, hp, beq_self_eq_true, Bool.false_eq_true, if_false]
          · rw [beq_eq_false_iff_ne.mpr heq]

theorem node?_erase_of_home (h : place.isPrefixOf t.home = true) (gone : Place) :
    (t.erase gone).node? place = t.node? place := by
  rw [node?, node?, erase, h, if_pos rfl, if_pos rfl]

theorem node?_erase_of_not_home (h : place.isPrefixOf t.home = false) (gone : Place) :
    (t.erase gone).node? place =
      if gone.isPrefixOf place then none else t.node? place := by
  rw [node?_of_not_home h, node?_of_not_home (t := t.erase gone) h, erase, lookup_filter_not]

/-! ## Walks in two trees -/

/-- All that stands in one tree stands in the other one too. -/
def Within (t u : FileTree) : Prop :=
  ∀ place, t.node? place = u.node? place ∨ t.node? place = none

theorem within_insert (node : Node) (h : t.node? new = none) : Within t (t.insert new node) := by
  intro place
  by_cases heq : place = new
  · exact Or.inr (heq ▸ h)
  · exact Or.inl (node?_insert_of_ne node heq).symm

theorem erase_within (gone : Place) : Within (t.erase gone) t := by
  intro place
  cases hhome : place.isPrefixOf t.home with
  | true => exact Or.inl (node?_erase_of_home hhome gone)
  | false =>
      rw [node?_erase_of_not_home hhome]
      split
      · exact Or.inr rfl
      · exact Or.inl rfl

theorem Within.node?_eq (h : Within t u) {node : Node} (hnode : t.node? place = some node) :
    u.node? place = some node := by
  obtain hsame | hnone := h place
  · rw [← hsame, hnode]
  · rw [hnode] at hnone
    cases hnone

/-- A name that is looked up, and does not stay at a place or go up. -/
def IsProper (name : String) : Prop :=
  name ≠ "" ∧ name ≠ "." ∧ name ≠ ".."

theorem along_proper {name : String} (hname : IsProper name) (t : FileTree)
    (f : Place → List String → Target) (place : Place) (rest : List String) :
    t.along f place (name :: rest) =
      match t.node? (place ++ [name]) with
      | none => if rest.isEmpty then .vacant (place ++ [name]) else .nowhere
      | some .file => if rest.isEmpty then .file (place ++ [name]) else .nowhere
      | some .directory => t.along f (place ++ [name]) rest
      | some (.link target) =>
        if target.isEmpty then .nowhere
        else f (start place target) (components target ++ rest) := by
  obtain ⟨hempty, hdot, hup⟩ := hname
  have hstay : ¬(decide (name = "") || decide (name = ".")) = true := by simp [hempty, hdot]
  rw [along]
  exact (if_neg hstay).trans (if_neg hup)

theorem isProper_of_along {name : String}
    (hname : ¬(decide (name = "") || decide (name = ".")) = true) (hup : ¬name = "..") :
    IsProper name := by
  rw [Bool.or_eq_true, decide_eq_true_eq, decide_eq_true_eq, not_or] at hname
  exact ⟨hname.1, hname.2, hup⟩

section

variable {R : Target → Target → Prop} {f g : Place → List String → Target}

/-- Compares the walks along the same names in two trees. Where the first one finds something so
does the second; what that one does where the first ends nowhere or at a vacant place is for
the relation to say. -/
theorem along_rel (h : Within t u) (hnowhere : ∀ r, R .nowhere r)
    (hfile : ∀ place, R (.file place) (.file place))
    (hdirectory : ∀ place, R (.directory place) (.directory place))
    (hvacant : ∀ place name, IsProper name → t.node? (place ++ [name]) = none →
      R (.vacant (place ++ [name])) (u.along g place [name]))
    (hfg : ∀ place names, R (f place names) (g place names)) (place : Place)
    (names : List String) : R (t.along f place names) (u.along g place names) := by
  fun_induction along t f place names with
  | case1 place => exact hdirectory place
  | case2 place name rest hname ih =>
      rw [along, if_pos hname]
      exact ih
  | case3 place rest hname ih =>
      rw [along, if_neg hname, if_pos rfl]
      exact ih
  | case4 place name rest hname hup hnode hrest =>
      rw [List.isEmpty_iff.mp hrest]
      exact hvacant place name (isProper_of_along hname hup) hnode
  | case5 | case7 | case9 => exact hnowhere _
  | case6 place name rest hname hup hnode hrest =>
      rw [along_proper (isProper_of_along hname hup), h.node?_eq hnode]
      simp only [hrest, if_true]
      exact hfile _
  | case8 place name rest hname hup hnode ih =>
      rw [along_proper (isProper_of_along hname hup), h.node?_eq hnode]
      exact ih
  | case10 place name rest hname hup target hnode htarget =>
      rw [along_proper (isProper_of_along hname hup), h.node?_eq hnode]
      simp only [if_neg htarget]
      exact hfg _ _

/-- The same for walks through any number of links. -/
theorem walk_rel (h : Within t u) (hnowhere : ∀ r, R .nowhere r)
    (hfile : ∀ place, R (.file place) (.file place))
    (hdirectory : ∀ place, R (.directory place) (.directory place))
    (hvacant : ∀ g place name, IsProper name → t.node? (place ++ [name]) = none →
      R (.vacant (place ++ [name])) (u.along g place [name]))
    (links : Nat) (place : Place) (names : List String) :
    R (t.walk links place names) (u.walk links place names) := by
  induction links generalizing place names with
  | zero =>
      exact along_rel h hnowhere hfile hdirectory (hvacant _) (fun _ _ => hnowhere _) place names
  | succ links ih => exact along_rel h hnowhere hfile hdirectory (hvacant _) ih place names

end

/-- Whatever a walk finds, it finds the same where more stands. -/
theorem walk_of_found (h : Within t u) {links : Nat}
    (hfound : (t.walk links place names).found = true) :
    u.walk links place names = t.walk links place names := by
  refine walk_rel (R := fun r r' => r.found = true → r' = r) h nofun (fun _ _ => rfl)
    (fun _ _ => rfl) ?_ links place names hfound
  intro g place name _ _ hfound
  cases hfound

/-- What stands at a place, as a walk tells it. -/
inductive Stands (t : FileTree) (place : Place) : Target → Prop
  | file (h : t.node? place = some .file) : Stands t place (.file place)
  | directory (h : t.node? place = some .directory) : Stands t place (.directory place)

/-- A walk that ends where something could be created finds what stands there in a larger
tree. -/
theorem walk_of_vacant (h : Within t u) {found : Target} (hstands : Stands u new found)
    {links : Nat} (hvacant : t.walk links place names = .vacant new) :
    u.walk links place names = found := by
  refine walk_rel (R := fun r r' => r = .vacant new → r' = found) h nofun nofun nofun ?_
    links place names hvacant
  intro g place name hname _ hnew
  injection hnew with hnew
  rw [along_proper hname, hnew]
  cases hstands with
  | file h =>
      rw [h]
      rfl
  | directory h =>
      rw [h]
      rfl

/-- Something could be created only where nothing stands. -/
theorem node?_of_walk_vacant {links : Nat} (hvacant : t.walk links place names = .vacant new) :
    t.node? new = none := by
  refine walk_rel (u := t) (R := fun r _ => r = .vacant new → t.node? new = none)
    (fun _ => Or.inl rfl) nofun nofun nofun ?_ links place names hvacant
  intro g place name _ hnone hnew
  injection hnew with hnew
  exact hnew ▸ hnone

/-! ## Walks that go on -/

/-- What some names lead to, and what they lead to with more names after them: the walk goes on
from the directory that it came to, with the links that are left, or it finds nothing. -/
def GoesOn (t : FileTree) (more : List String) (r r' : Target) : Prop :=
  (∃ inner fewer, r = .directory inner ∧ r' = t.walk fewer inner more) ∨
    (∀ inner, r ≠ .directory inner) ∧ r'.found = false

theorem along_append {f : Place → List String → Target} {links : Nat} {more : List String}
    (hmore : more ≠ []) (hlinks : t.along f = t.walk links)
    (hf : ∀ place names, t.GoesOn more (f place names) (f place (names ++ more)))
    (place : Place) (names : List String) :
    t.GoesOn more (t.along f place names) (t.along f place (names ++ more)) := by
  have hempty : ∀ rest, ¬(rest ++ more).isEmpty = true := by
    intro rest
    rw [List.isEmpty_iff]
    exact List.append_ne_nil_of_right_ne_nil rest hmore
  fun_induction along t f place names with
  | case1 place => exact Or.inl ⟨place, links, rfl, by rw [List.nil_append, hlinks]⟩
  | case2 place name rest hname ih =>
      rw [List.cons_append, along, if_pos hname]
      exact ih
  | case3 place rest hname ih =>
      rw [List.cons_append, along, if_neg hname, if_pos rfl]
      exact ih
  | case4 place name rest hname hup hnode | case5 place name rest hname hup hnode
  | case6 place name rest hname hup hnode | case7 place name rest hname hup hnode =>
      -- nothing lies behind a place with no directory
      rw [List.cons_append, along_proper (isProper_of_along hname hup), hnode]
      simp only [if_neg (hempty rest)]
      exact Or.inr ⟨nofun, rfl⟩
  | case8 place name rest hname hup hnode ih =>
      rw [List.cons_append, along_proper (isProper_of_along hname hup), hnode]
      exact ih
  | case9 place name rest hname hup target hnode htarget =>
      rw [List.cons_append, along_proper (isProper_of_along hname hup), hnode]
      simp only [if_pos htarget]
      exact Or.inr ⟨nofun, rfl⟩
  | case10 place name rest hname hup target hnode htarget =>
      rw [List.cons_append, along_proper (isProper_of_along hname hup), hnode]
      simp only [if_neg htarget, ← List.append_assoc]
      exact hf _ _

theorem walk_append {more : List String} (hmore : more ≠ []) (links : Nat) (place : Place)
    (names : List String) :
    t.GoesOn more (t.walk links place names) (t.walk links place (names ++ more)) := by
  induction links generalizing place names with
  | zero =>
      have hwalk : t.along (fun _ _ => .nowhere) = t.walk 0 := rfl
      exact along_append hmore hwalk (fun _ _ => Or.inr ⟨fun _ h => (by cases h), rfl⟩) place names
  | succ links ih =>
      have hwalk : t.along (t.walk links) = t.walk (links + 1) := rfl
      exact along_append hmore hwalk ih place names

/-! ## Creating files -/

theorem home_makeDirectories (t : FileTree) (place : Place) (done names : List String) :
    (t.makeDirectories place done names).home = t.home := by
  fun_induction makeDirectories t place done names with
  | case1 => rfl
  | case2 t done name rest new _ ih => exact ih
  | case3 t done name rest _ ih => exact ih

/-- A file that was created exists, unless something was in the way to it. -/
theorem has_touch (hask : canAsk path = true)
    (hway : (t.makeParents path).target path ≠ .nowhere) : (t.touch path).has path = true := by
  rw [has, hask, Bool.true_and, touch, if_pos hask]
  split
  · next new hvacant =>
      have hnone := node?_of_walk_vacant hvacant
      have hwalk : ((t.makeParents path).insert new .file).target path = .file new :=
        walk_of_vacant (within_insert .file hnone) (.file (node?_insert_self .file hnone)) hvacant
      rw [hwalk]
      rfl
  · next hnot =>
      cases htarget : (t.makeParents path).target path with
      | directory place => rfl
      | file place => rfl
      | vacant new => exact absurd htarget (hnot new)
      | nowhere => exact absurd htarget hway

/-- Nothing but directories stands anywhere. -/
def OnlyDirectories (t : FileTree) : Prop :=
  ∀ place node, t.node? place = some node → node = .directory

theorem onlyDirectories_around (home : Place) : OnlyDirectories (around home) := by
  intro place node hnode
  rw [node?] at hnode
  split at hnode
  · injection hnode with hnode
    exact hnode.symm
  · cases hnode

theorem OnlyDirectories.insert (h : OnlyDirectories t) (hnone : t.node? new = none) :
    OnlyDirectories (t.insert new .directory) := by
  intro place node hnode
  by_cases heq : place = new
  · rw [heq, node?_insert_self _ hnone] at hnode
    injection hnode with hnode
    exact hnode.symm
  · rw [node?_insert_of_ne _ heq] at hnode
    exact h place node hnode

/-- Where only directories stand, one name leads to a directory or to where one could be
created. -/
theorem OnlyDirectories.along_singleton (h : OnlyDirectories t)
    (f : Place → List String → Target) (place : Place) (name : String) :
    (∃ inner, t.along f place [name] = .directory inner) ∨
      ∃ new, t.along f place [name] = .vacant new := by
  rw [along]
  split
  · exact Or.inl ⟨place, rfl⟩
  · split
    · exact Or.inl ⟨place.dropLast, rfl⟩
    · cases hnode : t.node? (place ++ [name]) with
      | none => exact Or.inr ⟨place ++ [name], rfl⟩
      | some node =>
          cases h _ _ hnode
          exact Or.inl ⟨place ++ [name], rfl⟩

theorem OnlyDirectories.walk_singleton (h : OnlyDirectories t) (links : Nat) (place : Place)
    (name : String) :
    (∃ inner, t.walk links place [name] = .directory inner) ∨
      ∃ new, t.walk links place [name] = .vacant new := by
  cases links with
  | zero => exact h.along_singleton _ place name
  | succ links => exact h.along_singleton _ place name

/-- One name further than a directory, there is a directory or there could be one. -/
theorem OnlyDirectories.resolve_concat (h : OnlyDirectories t) {inner : Place}
    (hdone : t.resolve place names = .directory inner) (name : String) :
    (∃ inner, t.resolve place (names ++ [name]) = .directory inner) ∨
      ∃ new, t.resolve place (names ++ [name]) = .vacant new := by
  obtain ⟨_, fewer, _, hwalk⟩ | ⟨hnot, _⟩ :=
    walk_append (t := t) (List.cons_ne_nil name []) maxLinks place names
  · rw [resolve, hwalk]
    exact h.walk_singleton fewer _ name
  · exact absurd hdone (hnot inner)

/-- Where only directories stand, all directories on a way can be created. -/
theorem OnlyDirectories.makeDirectories (h : OnlyDirectories t) {done : List String}
    (hdone : ∃ inner, t.resolve place done = .directory inner) (names : List String) :
    OnlyDirectories (t.makeDirectories place done names) ∧
      ∃ inner, (t.makeDirectories place done names).resolve place (done ++ names) =
        .directory inner := by
  fun_induction FileTree.makeDirectories t place done names with
  | case1 t done => exact ⟨h, by rwa [List.append_nil]⟩
  | case2 t done name rest new hvacant ih =>
      have hnone := node?_of_walk_vacant hvacant
      have hnew : (t.insert new .directory).resolve place (done ++ [name]) = .directory new :=
        walk_of_vacant (within_insert .directory hnone)
          (.directory (node?_insert_self .directory hnone)) hvacant
      rw [List.append_cons done name rest]
      exact ih (h.insert hnone) ⟨new, hnew⟩
  | case3 t done name rest hnot ih =>
      obtain ⟨inner, hinner⟩ := hdone
      rw [List.append_cons done name rest]
      refine ih h ?_
      obtain hdirectory | ⟨new, hvacant⟩ := h.resolve_concat hinner name
      · exact hdirectory
      · exact absurd hvacant (hnot new)

theorem exists_components (path : String) :
    ∃ last, components path = (components path).dropLast ++ [last] := by
  have hne : components path ≠ [] := by
    rw [components, Ne, List.map_eq_nil_iff]
    exact List.splitOn_ne_nil '/' path.toList
  exact ⟨_, (List.dropLast_concat_getLast hne).symm⟩

/-- Where only directories stand, a file can be created at every path, and then it
exists. -/
theorem OnlyDirectories.has_touch (h : OnlyDirectories t) (hask : canAsk path = true) :
    (t.touch path).has path = true := by
  refine FileTree.has_touch hask ?_
  obtain ⟨last, hlast⟩ := exists_components path
  have hstart : ∃ inner, t.resolve (start t.home path) [] = .directory inner :=
    ⟨start t.home path, rfl⟩
  obtain ⟨honly, inner, hparents⟩ := h.makeDirectories hstart (components path).dropLast
  rw [List.nil_append] at hparents
  have htarget := honly.resolve_concat hparents last
  rw [← hlast] at htarget
  rw [target, makeParents, home_makeDirectories]
  obtain ⟨_, htarget⟩ | ⟨_, htarget⟩ := htarget
  · rw [htarget]
    exact nofun
  · rw [htarget]
    exact nofun

/-- An absolute path, which does not start in the working directory. -/
example : (empty.touch "/run/maintenance").has "/run/maintenance" = true := by
  decide +kernel

/-! ## Removing files -/

theorem walk_singleton_of_none {last : String} (hname : IsProper last)
    (hnone : t.node? (place ++ [last]) = none) (links : Nat) :
    t.walk links place [last] = .vacant (place ++ [last]) := by
  cases links with
  | zero =>
      rw [walk, along_proper hname, hnone]
      rfl
  | succ links =>
      rw [walk, along_proper hname, hnone]
      rfl

/-- The last place of a path is below the directory that the names before it lead to. -/
theorem exists_of_lastPlace? (h : t.lastPlace? path = some place) :
    ∃ names parent last, components path = names ++ [last] ∧ IsProper last ∧
      t.resolve (start t.home path) names = .directory parent ∧ place = parent ++ [last] := by
  rw [lastPlace?] at h
  split at h
  · cases h
  · next last hlast =>
      obtain ⟨names, hnames⟩ := List.getLast?_eq_some_iff.mp hlast
      split at h
      · cases h
      · next hname =>
          simp only [Bool.or_eq_true, decide_eq_true_eq, not_or] at hname
          obtain ⟨⟨⟨_, hempty⟩, hdot⟩, hup⟩ := hname
          rw [hnames, List.dropLast_concat] at h
          split at h
          · next parent hparent =>
              injection h with hplace
              exact ⟨names, parent, last, hnames, ⟨hempty, hdot, hup⟩, hparent,
                hplace.symm⟩
          · cases h

/-- Nothing is found at a path after what stood there was removed. Only the working directory
and the directories around it cannot be removed. -/
theorem has_remove (h : t.lastPlace? path = some place)
    (hhome : place.isPrefixOf t.home = false) : (t.remove path).has path = false := by
  obtain ⟨names, parent, last, hnames, hname, hparent, rfl⟩ := exists_of_lastPlace? h
  have hnone : (t.erase (parent ++ [last])).node? (parent ++ [last]) = none := by
    rw [node?_erase_of_not_home hhome, if_pos]
    exact List.isPrefixOf_iff_prefix.mpr (List.prefix_refl _)
  have hgone : ((t.erase (parent ++ [last])).target path).found = false := by
    rw [target, hnames]
    obtain ⟨inner, fewer, hinner, hwalk⟩ | ⟨_, hnot⟩ :=
      walk_append (t := t.erase (parent ++ [last])) (List.cons_ne_nil last []) maxLinks
        (start t.home path) names
    · -- the way there is the one that led to the parent before
      have hsame := walk_of_found (erase_within (t := t) (parent ++ [last])) (by rw [hinner]; rfl)
      rw [hinner] at hsame
      have hparent' : Target.directory parent = .directory inner := hparent.symm.trans hsame
      injection hparent' with hparent'
      rw [← hparent', walk_singleton_of_none hname hnone] at hwalk
      exact congrArg Target.found hwalk
    · exact hnot
  rw [has, remove, h]
  exact Bool.and_eq_false_iff.mpr (Or.inr hgone)

end FileTree

namespace MaintenanceSwitch

variable {s : MaintenanceSwitch} {path : String}

/-! ## The switch -/

theorem isOn_of_flagPath (h : s.flagPath = some path) (c : Condition) :
    s.isOn c = (c.toggle || c.files.has path) := by
  rw [isOn, h]
  rfl

/-- Maintenance is on as soon as the flag file was created, unless something was in the way
to it. -/
theorem isOn_of_flag_created (h : s.flagPath = some path)
    (hask : FileTree.canAsk path = true) {c : Condition}
    (hway : (c.files.makeParents path).target path ≠ .nowhere) :
    s.isOn { c with files := c.files.touch path } = true := by
  rw [isOn_of_flagPath h, FileTree.has_touch hask hway, Bool.or_true]

/-- Wherever the service runs, its flag file can be created, absolute or not. -/
theorem isOn_initial_touch (h : s.flagPath = some path) (hask : FileTree.canAsk path = true)
    (home : FileTree.Place) :
    s.isOn (.initial ((FileTree.around home).touch path)) = true := by
  rw [isOn_of_flagPath h, Condition.initial, Bool.false_or]
  exact (FileTree.onlyDirectories_around home).has_touch hask

/-- Nothing is left of a flag file once it was removed. -/
theorem isOn_of_flag_removed (h : s.flagPath = some path) {c : Condition}
    {place : FileTree.Place} (hplace : c.files.lastPlace? path = some place)
    (hhome : place.isPrefixOf c.files.home = false) :
    s.isOn { c with files := c.files.remove path } = c.toggle := by
  rw [isOn_of_flagPath h, FileTree.has_remove hplace hhome, Bool.or_false]

end MaintenanceSwitch

end FaultGate
