/-! # Names and their order

Nodes, volumes and drivers are named by text.

* **Size.** The length of a name is the number of bytes of its UTF-8 form (`Name.size`);
  the limit on volume names is stated in it.
* **Order.** Directories list names by the lexicographic order of those bytes
  (`Name.Before`), a strict total order: exactly one of "before", "equal", "after" holds. -/

namespace VolumeService

namespace Name

/-- The UTF-8 bytes of a name. -/
def bytes (name : String) : List UInt8 := name.toUTF8.data.toList

/-- The number of UTF-8 bytes of a name. -/
def size (name : String) : Nat := name.utf8ByteSize

/-- Lexicographic order of the UTF-8 bytes. -/
def Before (a b : String) : Prop := bytes a < bytes b

instance (a b : String) : Decidable (Before a b) :=
  inferInstanceAs (Decidable (bytes a < bytes b))

theorem bytes_inj {a b : String} : bytes a = bytes b ↔ a = b := by
  refine ⟨fun h => ?_, fun h => h ▸ rfl⟩
  apply String.toByteArray_inj.1
  apply ByteArray.ext
  exact Array.toList_inj.1 h

theorem Before.irrefl (a : String) : ¬ Before a a := List.lt_irrefl (bytes a)

theorem Before.trans {a b c : String} (hab : Before a b) (hbc : Before b c) : Before a c :=
  List.lt_trans hab hbc

theorem Before.asymm {a b : String} (hab : Before a b) : ¬ Before b a :=
  fun hba => Before.irrefl a (hab.trans hba)

theorem Before.ne {a b : String} (hab : Before a b) : a ≠ b :=
  fun h => Before.irrefl b (h ▸ hab)

/-- Two names neither of which is before the other are equal. -/
theorem eq_of_not_before {a b : String} (hab : ¬ Before a b) (hba : ¬ Before b a) : a = b :=
  bytes_inj.1 (List.le_antisymm (List.not_lt.1 hba) (List.not_lt.1 hab))

theorem before_of_not_before_of_ne {a b : String} (hab : ¬ Before a b) (hne : a ≠ b) :
    Before b a :=
  Decidable.byContradiction fun hba => hne (eq_of_not_before hab hba)

end Name

end VolumeService
