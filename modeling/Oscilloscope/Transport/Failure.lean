/- Failures of the USB link itself. -/

import Oscilloscope.Duration

set_option autoImplicit false
set_option relaxedAutoImplicit false

namespace Oscilloscope

/-- Ways in which a transfer that was submitted can end badly. -/
inductive TransferFailure
  | cancelled | stall | disconnected | fault | unknown
  deriving DecidableEq

def TransferFailure.text : TransferFailure → String
  | .cancelled => "transfer was cancelled"
  | .stall => "endpoint STALL condition"
  | .disconnected => "device disconnected"
  | .fault => "hardware fault or protocol violation"
  | .unknown => "unknown error"

/-- Why the host could not carry out one operation. What its USB system or the runtime for it
complains of is a text of theirs. -/
inductive Failure
  | notFound
  | notOpen
  | timeout
  | transfer (cause : TransferFailure)
  | usb (cause : String)
  | runtime (cause : String)
  deriving DecidableEq

inductive Operation
  | opening | claim | close | write | read
  deriving DecidableEq

def Operation.name : Operation → String
  | .opening => "open"
  | .claim => "claim"
  | .close => "close"
  | .write => "write"
  | .read => "read"

/-- A failure as it is reported: a timeout names the operation and how long it was given. -/
inductive LinkFault
  | notFound
  | notOpen
  | transfer (cause : TransferFailure)
  | usb (cause : String)
  | runtime (cause : String)
  | timeout (operation : Operation) (limit : Duration)
  | shortWrite (written expected : Nat)
  deriving DecidableEq

def Failure.during (operation : Operation) (limit : Duration) : Failure → LinkFault
  | .notFound => .notFound
  | .notOpen => .notOpen
  | .timeout => .timeout operation limit
  | .transfer cause => .transfer cause
  | .usb cause => .usb cause
  | .runtime cause => .runtime cause

def LinkFault.message : LinkFault → String
  | .notFound => "USB device not found. Is the oscilloscope connected?"
  | .notOpen => "Transport is not open"
  | .transfer cause => "USB transfer error: " ++ cause.text
  | .usb cause => "USB error: " ++ cause
  | .runtime cause => "Failed to build I/O runtime: " ++ cause
  | .timeout operation limit =>
    "Timeout during USB " ++ operation.name ++ " after " ++ limit.text
  | .shortWrite written expected =>
    "Short write: " ++ toString written ++ " of " ++ toString expected ++ " bytes sent"

end Oscilloscope
