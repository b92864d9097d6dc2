import Mathlib.Data.List.Induction
import SignalStub.Settings.Load

/-! # What is put together of variables

    Variables are entered into a table one after the other, and each of them changes what stands
    under one key. What the settings ask of the whole table is what stands under their own keys.
    There it is enough to look at the variables from the last one backwards: the first that gives
    something for the key has given what stands under it.

    Under different keys variables do not get in each other's way, so they can be entered in either
    order. Where no two variables give something for one key, any order leaves the same entry under
    it.
-/

namespace SignalStub

open Settings

/-! ## Single entries -/

namespace Settings.Table
variable {key other : String} {entry : Entry}

@[simp] theorem lookup?_insert_self (table : Table) :
    (table.insert key entry).lookup? key = some entry := by
  simp [insert, lookup?]

theorem lookup?_insert_of_ne (hne : other ≠ key) (table : Table) :
    (table.insert key entry).lookup? other = table.lookup? other := by
  have hhead : (other == key) = false := beq_eq_false_iff_ne.mpr hne
  have htail : (table.filter fun slot => slot.1 ≠ key).lookup other = table.lookup other := by
    induction table with
    | nil => rfl
    | cons slot table ih =>
      by_cases hslot : slot.1 = key
      · have hskip : (other == slot.1) = false := by rw [hslot, hhead]
        rw [List.filter_cons_of_neg (by simpa using hslot), ih, List.lookup_cons, hskip]
      · rw [List.filter_cons_of_pos (by simpa using hslot), List.lookup_cons, List.lookup_cons, ih]
  unfold insert lookup?
  rw [List.lookup_cons, hhead, htail]

end Settings.Table

namespace Environment

/-! ## What one variable gives -/

/-- What one variable gives for a key. -/
def given? (key : String) (assignment : String × String) : Option Entry :=
  match NameShape.ofName (Text.lowercase assignment.1) with
  | .value root => if root = key then some (.scalar (.read assignment.2)) else none
  | .table root => if root = key then some .table else none
  | .sequence root => if root = key then some .sequence else none
  | .other => none

/-- What the variables give for a key: the last that mentions it decides. -/
def find? (env : Environment) (key : String) : Option Entry :=
  env.reverse.findSome? (given? key)

/-- The last variable that mentions a key decides. -/
theorem find?_append_singleton (env : Environment) (v : String × String) (key : String) :
    find? (env ++ [v]) key = (given? key v).or (find? env key) := by
  simp only [find?, List.reverse_append, List.reverse_singleton, List.singleton_append,
    List.findSome?_cons]
  cases given? key v <;> rfl

/-! ## What stands under a key -/

section Key
variable {key : String} (hkey : NameShape.ofName key = .value key)
include hkey

/-- A variable puts what it gives for a key in place of what stood there. -/
theorem lookup?_enter (table : Table) (v : String × String) :
    (enter table v).lookup? key = (given? key v).or (table.lookup? key) := by
  have hinsert : ∀ root entry, (table.insert root entry).lookup? key =
      (if root = key then some entry else none).or (table.lookup? key) := by
    intro root entry
    by_cases hroot : root = key
    · rw [hroot, Table.lookup?_insert_self, if_pos rfl, Option.some_or]
    · rw [Table.lookup?_insert_of_ne (Ne.symm hroot), if_neg hroot, Option.none_or]
  unfold enter given?
  dsimp only
  cases hshape : NameShape.ofName (Text.lowercase v.1) with
  | value root => exact hinsert root (.scalar (.read v.2))
  | table root => exact hinsert root .table
  | sequence root => exact hinsert root .sequence
  | other =>
    dsimp only
    -- a name that is no path is not the key, whose name is one
    have hname : Text.lowercase v.1 ≠ key := by
      intro hname
      rw [hname, hkey] at hshape
      cases hshape
    rw [hinsert, if_neg hname]

/-- Under a key stands what the last variable that mentions it has given. -/
theorem lookup?_collect (env : Environment) : env.collect.lookup? key = env.find? key := by
  induction env using List.reverseRecOn with
  | nil => rfl
  | append_singleton env v ih =>
    rw [collect, List.foldl_append, List.foldl_cons, List.foldl_nil, lookup?_enter hkey,
      find?_append_singleton, ← ih, collect]

/-! ## The order of variables -/

/-- Two variables can be entered in either order, if one of them gives nothing for the key. -/
theorem lookup?_enter_comm {v w : String × String} (h : given? key v = none ∨ given? key w = none)
    (table : Table) :
    (enter (enter table v) w).lookup? key = (enter (enter table w) v).lookup? key := by
  rw [lookup?_enter hkey, lookup?_enter hkey, lookup?_enter hkey, lookup?_enter hkey]
  rcases h with hnone | hnone
  · rw [hnone, Option.none_or, Option.none_or]
  · rw [hnone, Option.none_or, Option.none_or]

/-- Tables that agree on the key go on to do so. -/
theorem lookup?_foldl_congr (env : Environment) {table other : Table}
    (h : table.lookup? key = other.lookup? key) :
    (env.foldl enter table).lookup? key = (env.foldl enter other).lookup? key := by
  induction env generalizing table other with
  | nil => exact h
  | cons v env ih =>
    rw [List.foldl_cons, List.foldl_cons]
    apply ih
    rw [lookup?_enter hkey, lookup?_enter hkey, h]

/-- Variables can be entered in any order, if no two of them give something for the key. -/
theorem find?_eq_of_perm {env other : Environment} (hperm : env.Perm other)
    (hone : ∀ v ∈ env, ∀ w ∈ env, v = w ∨ given? key v = none ∨ given? key w = none) :
    env.find? key = other.find? key := by
  rw [← lookup?_collect hkey, ← lookup?_collect hkey]
  suffices h : ∀ table : Table,
      (env.foldl enter table).lookup? key = (other.foldl enter table).lookup? key from h []
  induction hperm with
  | nil => exact fun _ => rfl
  | @cons v env other _ ih =>
    intro table
    rw [List.foldl_cons, List.foldl_cons]
    exact ih (fun w hw w' hw' => hone w (List.mem_cons_of_mem v hw) w' (List.mem_cons_of_mem v hw'))
      (enter table v)
  | swap v w env =>
    intro table
    rw [List.foldl_cons, List.foldl_cons, List.foldl_cons, List.foldl_cons]
    apply lookup?_foldl_congr hkey env
    rcases hone w (by simp) v (by simp) with rfl | hnone
    · rfl
    · exact lookup?_enter_comm hkey hnone table
  | trans hfirst _ ih ih' =>
    intro table
    refine (ih hone table).trans (ih' ?_ table)
    exact fun v hv w hw => hone v (hfirst.mem_iff.mpr hv) w (hfirst.mem_iff.mpr hw)

end Key

end Environment

end SignalStub
