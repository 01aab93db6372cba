import ChassisWatch.Component.Key
import Mathlib.Data.List.Infix

/-!
# Keys and components

The key of a sensor value leads back to the component of the sensor. A key names one component and
one leaf, as long as the leaf has nothing in it that looks like the end of a name.
-/

namespace ChassisWatch

/-- What stands before an ending is found again. -/
theorem beforeEnding?_append (s t : String) : beforeEnding? t (s ++ t) = some s := by
  simp [beforeEnding?]

/-- The value alarms of a sensor belong to the path of its component. -/
theorem resourceOf_sensorValueKey (name : String) :
    resourceOf (sensorValueKey name) = componentPath name := by
  have hkey : sensorValueKey name = componentPath name ++ "/sensor-data/value" := by
    rw [sensorValueKey, componentKey, String.append_assoc]
    rfl
  rw [resourceOf, hkey, beforeEnding?_append]
  rfl

/-- What stands in a key between the name of the component and the leaf. -/
def leafMark : List Char := "']/".toList

/-- The mark does not occur in a leaf. -/
def PlainLeaf (leaf : String) : Prop := ¬leafMark <:+: leaf.toList

instance (leaf : String) : Decidable (PlainLeaf leaf) := inferInstanceAs (Decidable (¬_))

/-- A key is what all keys begin with, the name of the component, the mark and the leaf. -/
theorem componentKey_eq (name leaf : String) :
    componentKey name leaf = "/hardware/component[name='" ++ (name ++ ("']/" ++ leaf)) := by
  have hmark : "']/" = "']" ++ "/" := by decide
  unfold componentKey componentPath
  rw [hmark, String.append_assoc, String.append_assoc, String.append_assoc, String.append_assoc]

/-- The characters of a key. -/
theorem toList_componentKey (name leaf : String) :
    (componentKey name leaf).toList =
      "/hardware/component[name='".toList ++ (name.toList ++ (leafMark ++ leaf.toList)) := by
  rw [componentKey_eq, String.toList_append, String.toList_append, String.toList_append, leafMark]

/-- The mark cannot begin inside another mark, so the first one stands in front of all that follows
it. -/
theorem eq_nil_of_leafMark_append {l m r : List Char} (plain : ¬leafMark <:+: l)
    (h : leafMark ++ l = r ++ (leafMark ++ m)) : r = [] := by
  match r with
  | [] => rfl
  | [_] | [_, _] => simp [leafMark] at h
  | a :: b :: c :: rest =>
    have hl : l = rest ++ leafMark ++ m := by
      have hrest := congrArg (List.drop 3) h
      simpa [leafMark] using hrest
    exact absurd ⟨rest, m, hl.symm⟩ plain

/-- Two keys with plain leaves are equal only if they name the same leaf of the same component. -/
theorem componentKey_injective {name name' leaf leaf' : String} (plain : PlainLeaf leaf)
    (plain' : PlainLeaf leaf') (h : componentKey name leaf = componentKey name' leaf') :
    name = name' ∧ leaf = leaf' := by
  have htext : name.toList ++ (leafMark ++ leaf.toList) =
      name'.toList ++ (leafMark ++ leaf'.toList) := by
    rw [← List.append_cancel_left_eq "/hardware/component[name='".toList, ← toList_componentKey,
      ← toList_componentKey, h]
  have hname : name.toList = name'.toList := by
    rcases List.append_eq_append_iff.mp htext with ⟨r, hr, hrest⟩ | ⟨r, hr, hrest⟩
    · rw [hr, eq_nil_of_leafMark_append plain hrest, List.append_nil]
    · rw [hr, eq_nil_of_leafMark_append plain' hrest, List.append_nil]
  rw [hname, List.append_cancel_left_eq, List.append_cancel_left_eq] at htext
  exact ⟨String.toList_inj.mp hname, String.toList_inj.mp htext⟩

/-- Under another plain leaf than that of the value stands no sensor value, of no component. -/
theorem componentKey_ne_sensorValueKey {leaf : String} (plain : PlainLeaf leaf)
    (other : leaf ≠ "sensor-data/value") (name name' : String) :
    componentKey name leaf ≠ sensorValueKey name' := by
  intro h
  exact other (componentKey_injective plain (by decide) h).2

/-- The key of a leaf with a mark may be that of another component. -/
example : componentKey "ne:a" "x']/class" = componentKey "ne:a']/x" "class" := by decide

/-- No component has the key that dates a snapshot. -/
theorem componentKey_ne_lastChangeKey (name leaf : String) :
    componentKey name leaf ≠ lastChangeKey := by
  intro h
  have hkey : (componentKey name leaf).toList[10]? = some 'c' := by
    rw [toList_componentKey, List.getElem?_append_left (by decide)]
    decide
  rw [h] at hkey
  revert hkey
  decide

end ChassisWatch
