/-! Small letters for the capital ones from A to Z; all other characters stay as they are. -/

set_option autoImplicit false

namespace ComponentSchema.Text

def lowercased (text : String) : String :=
  String.ofList (text.toList.map Char.toLower)

@[simp] theorem toList_lowercased (text : String) :
    (lowercased text).toList = text.toList.map Char.toLower := by
  simp [lowercased]

@[simp] theorem toLower_toLower (c : Char) : c.toLower.toLower = c.toLower := by
  by_cases capital : c.val ≥ 'A'.val ∧ c.val ≤ 'Z'.val
  · have value : c.toLower.val = c.val + 32 := congrArg Char.val (dif_pos capital)
    have low : 65 ≤ c.val.toNat := UInt32.le_iff_toNat_le.1 capital.1
    have high : c.val.toNat ≤ 90 := UInt32.le_iff_toNat_le.1 capital.2
    have small : ¬(c.toLower.val ≥ 'A'.val ∧ c.toLower.val ≤ 'Z'.val) := by
      rintro ⟨_, within⟩
      simp only [value, UInt32.le_iff_toNat_le, UInt32.toNat_add, Char.reduceVal,
        UInt32.reduceToNat] at within
      omega
    exact dif_neg small
  · have same : c.toLower = c := dif_neg capital
    rw [same, same]

@[simp] theorem lowercased_lowercased (text : String) :
    lowercased (lowercased text) = lowercased text := by
  have twice : Char.toLower ∘ Char.toLower = Char.toLower := funext toLower_toLower
  simp only [lowercased, String.toList_ofList, List.map_map, twice]

end ComponentSchema.Text
