import BoardWarden.Power.Sequencer

set_option autoImplicit false

namespace BoardWarden.ResetFlags

/-- Bit 28 tells of a software reset, bits 29 and 30 of the two watchdogs. -/
def ofStatusWord (word : Nat) : ResetFlags :=
  { jumped := false
    apOff := false
    soft := word.testBit 28
    watchdog := word.testBit 29 || word.testBit 30 }

end BoardWarden.ResetFlags
