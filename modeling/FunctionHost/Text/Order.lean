/-!
# The order of texts

Texts are ordered by the bytes of their UTF-8 form, the first difference deciding.  It is a strict
total order: irreflexive, transitive, and of two different texts one comes first.
-/
namespace FunctionHost
namespace Text

/-- The bytes of a text, as numbers. -/
def byteList (text : String) : List UInt8 := text.toUTF8.data.toList

theorem byteList_injective {a b : String} (h : byteList a = byteList b) : a = b := by
  have h : a.toUTF8 = b.toUTF8 := ByteArray.ext (Array.toList_inj.1 h)
  exact String.toByteArray_inj.1 h

/-- **The order of texts.** -/
def Before (a b : String) : Prop := byteList a < byteList b

instance (a b : String) : Decidable (Before a b) := inferInstanceAs (Decidable (_ < _))

theorem Before.irrefl (a : String) : ¬ Before a a := List.lt_irrefl _

theorem Before.trans {a b c : String} (h : Before a b) (k : Before b c) : Before a c :=
  List.lt_trans h k

theorem Before.of_not {a b : String} (h : ¬ Before a b) (ne : a ≠ b) : Before b a := by
  rcases Std.lt_trichotomy (byteList a) (byteList b) with lt | eq | gt
  · exact absurd lt h
  · exact absurd (byteList_injective eq) ne
  · exact gt

end Text
end FunctionHost
