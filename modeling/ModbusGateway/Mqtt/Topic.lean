import ModbusGateway.Foundation.Pieces
import ModbusGateway.Mqtt

/-!
# The topics of the devices

`batch_topic` puts the device id in place of every placeholder. Where the
placeholders stand does not depend on the id, so the topic is the pieces of the
template with the id between them.
-/
namespace ModbusGateway

open Foundation

theorem replaceFrom_eq_intercalate (pattern replacement : List Char) (skip : Nat)
    (text : List Char) :
    replaceFrom pattern replacement skip text =
      replacement.intercalate (pieces pattern skip text) := by
  fun_induction replaceFrom pattern replacement skip text with
  | case1 skip => cases skip <;> rfl
  | case2 skip c rest ih => exact ih
  | case3 c rest here ih =>
    have more := pieces_ne_nil pattern (pattern.length - 1) rest
    rw [pieces, if_pos here, List.intercalate_cons_of_ne_nil more, List.nil_append, ih]
  | case4 c rest elsewhere ih =>
    have nonempty := pieces_ne_nil pattern 0 rest
    rw [pieces, if_neg elsewhere, intercalate_modifyHead_cons replacement c nonempty, ih]

/-- A template that has the placeholder gives different devices different topics. -/
theorem batchTopic_injective (topicTemplate : String)
    (placeholder : "\x7bdevice\x7d".toList <:+: topicTemplate.toList) :
    Function.Injective (batchTopic topicTemplate) := by
  intro d1 d2 same
  have texts := String.ofList_inj.mp same
  rw [replaceFrom_eq_intercalate, replaceFrom_eq_intercalate] at texts
  have several := two_le_length_pieces (by decide) placeholder
  exact String.toList_inj.mp (intercalate_left_injective several texts)

/-- A template with the placeholder twice and braces around it, for two ids of which one has
the placeholder in it. -/
theorem batchTopic_injective_braces :
    Function.Injective (batchTopic "t/\x7b\x7bdevice\x7d\x7d/\x7bdevice\x7d") ∧
      batchTopic "t/\x7b\x7bdevice\x7d\x7d/\x7bdevice\x7d" "m\x7bdevice\x7d" ≠
        batchTopic "t/\x7b\x7bdevice\x7d\x7d/\x7bdevice\x7d" "m" :=
  have injective := batchTopic_injective _ (by decide)
  ⟨injective, injective.ne (by decide)⟩

end ModbusGateway
