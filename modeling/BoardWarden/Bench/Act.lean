import BoardWarden.Board

set_option autoImplicit false

namespace BoardWarden

inductive Act where
  | drive (line : Line) (level accepted : Bool) (time : Instant)
  | duty (fan : FanId) (percent : Nat)
  | output (fan : FanId) (on : Bool)
  | notify (event : ChipsetEvent)
  | apReset (asserted : Bool) (time : Instant)
  | powerButton (pressed : Bool) (time : Instant)
  | idleSleep (allowed : Bool)
  deriving DecidableEq

namespace Act

def bit (level : Bool) : String := if level then "1" else "0"

def text : Act → String
  | drive line level accepted time =>
    "sig" ++ toString line.index ++ "=" ++ bit level ++ (if accepted then "@" else "!@")
      ++ toString time.micros
  | duty fan percent => fan.text ++ " duty=" ++ toString percent
  | output fan on => fan.text ++ " pwm=" ++ bit on
  | notify event => "notify " ++ event.text
  | apReset asserted time => "ap_reset=" ++ bit asserted ++ "@" ++ toString time.micros
  | powerButton pressed time => "button=" ++ bit pressed ++ "@" ++ toString time.micros
  | idleSleep allowed => "idle=" ++ bit allowed

end Act

end BoardWarden
