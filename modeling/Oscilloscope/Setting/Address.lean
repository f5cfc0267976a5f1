/- Addressing a key: channel keys need a channel, keys of the instrument refuse one. -/

import Oscilloscope.Fault

set_option autoImplicit false
set_option relaxedAutoImplicit false

namespace Oscilloscope

def Key.address : Key → Option Nat → Except Fault Setting
  | .device k, none => .ok (.device k)
  | .device k, some _ => .error (.notApplicable (.device k))
  | .channel k, none => .error (.argument (.channelNeeded (.channel k)))
  | .channel k, some i =>
    match ChannelId.ofIndex? i with
    | some c => .ok (.channel k c)
    | none => .error (.argument (.noChannel i))

theorem Key.address_key (x : Setting) : x.key.address (x.channel?.map ChannelId.index) = .ok x := by
  cases x with
  | device k => rfl
  | channel k c => simp [Setting.key, Setting.channel?, address]

end Oscilloscope
