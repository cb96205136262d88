/-
Why reading fails. A decoder only goes forward, so that it never misses a byte before the start, as a reader
does that can go back.
-/
import SolidityWire.Wire.Primitive

namespace SolidityWire

/-- The reason is none that only a reader has that can go back. -/
def DecodeError.IsForward : DecodeError → Prop
  | .beforeStart _ => False
  | _ => True

/-- The decoder fails only for reasons of those that go forward. -/
def Decoder.Forward {α : Type} (d : Decoder α) : Prop :=
  ∀ cur e cur', d cur = (.error e, cur') → e.IsForward

namespace Decoder

variable {α β : Type} {d : Decoder α}

theorem give_forward (a : α) : (give a).Forward :=
  fun _ _ _ h => nomatch h

theorem refuse_forward {e : DecodeError} (he : e.IsForward) : (refuse e : Decoder α).Forward := by
  intro cur e' cur' h
  cases h
  exact he

theorem andThen_forward {f : α → Decoder β} (hd : d.Forward) (hf : ∀ a, (f a).Forward) : (d.andThen f).Forward := by
  intro cur e cur' h
  unfold andThen at h
  split at h
  · exact hf _ _ _ _ h
  · rename_i e' cur'' he
    cases h
    exact hd _ _ _ he

theorem map_forward {f : α → β} (hd : d.Forward) : (d.map f).Forward :=
  andThen_forward hd fun a => give_forward (f a)

theorem byte_forward : byte.Forward := by
  intro cur e cur' h
  unfold byte at h
  split at h
  · cases h; trivial
  · cases h

theorem bytes_forward (n : Nat) : (bytes n).Forward := by
  intro cur e cur' h
  unfold bytes at h
  split at h
  · cases h
  · cases h; trivial

end Decoder

open Decoder

theorem Integer.decode_forward (signed : Bool) (width : Nat) : (Integer.decode signed width).Forward :=
  map_forward (bytes_forward width)

theorem Length.decodeGroups_forward : ∀ groups shift value, (decodeGroups groups shift value).Forward
  | 0, _, _ => refuse_forward trivial
  | groups + 1, shift, value => by
    refine andThen_forward byte_forward fun b => ?_
    simp only
    split
    · exact refuse_forward trivial
    · split
      · split
        · exact refuse_forward trivial
        · exact give_forward _
      · exact decodeGroups_forward groups _ _

theorem Length.decode_forward : Length.decode.Forward :=
  decodeGroups_forward 10 0 0

namespace Wire

theorem decodeBool_forward : decodeBool.Forward := by
  intro cur
  refine andThen_forward byte_forward (fun b => ?_) cur
  split
  · exact refuse_forward trivial
  · exact give_forward _

theorem decodeCharacters_forward (count : Nat) : (decodeCharacters count).Forward := by
  intro cur e cur' h
  unfold decodeCharacters at h
  split at h
  · cases h; trivial
  · refine andThen_forward (bytes_forward _) (fun data => ?_) cur e cur' h
    split
    · exact give_forward _
    · exact refuse_forward trivial

theorem decode_forward (p : Primitive) : (decode p).Forward := by
  cases p with
  | unit => exact give_forward _
  | bool => exact map_forward decodeBool_forward
  | integer signed width => exact map_forward (Integer.decode_forward _ _)
  | char => exact map_forward byte_forward
  | string => exact map_forward (andThen_forward Length.decode_forward decodeCharacters_forward)
  | bytes => exact map_forward (andThen_forward Length.decode_forward bytes_forward)

end Wire

theorem Cursor.at?_forward {offset : Int} {bytes : List UInt8} {e : DecodeError} (h : at? offset bytes = .error e) :
    e.IsForward := by
  unfold at? at h
  split at h
  · cases h
  · cases h; trivial

end SolidityWire
