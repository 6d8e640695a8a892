import BoardWarden.Fan.Channel
import BoardWarden.Plant

set_option autoImplicit false

namespace BoardWarden

open Settings (FanLimits Store Tag)

structure FanBank where
  channels : List FanChannel
  config : FanConfig

structure FanSnapshot where
  fan : FanId
  enabled : Bool
  mode : FanMode
  duty : Nat
  target : Nat
  rpm : Nat
  status : FanStatus
  deriving DecidableEq

namespace FanBank

def limit : Nat := 4

def ofCount (count : Nat) (limits : FanLimits) (config : FanConfig) : FanBank :=
  { channels := List.replicate (min count limit) (FanChannel.fresh limits), config }

def channel? (b : FanBank) (fan : FanId) : Option FanChannel := b.channels[fan.index]?

def fans (b : FanBank) : List FanId := (List.range b.channels.length).map FanId.mk

def modify (b : FanBank) (fan : FanId) (f : FanChannel → FanChannel) : FanBank :=
  { b with channels := b.channels.modify fan.index f }

def loadChannels (store : Store) (time : Instant) :
    Nat → List FanChannel → Journal → List FanChannel × Journal
  | _, [], j => ([], j)
  | first, c :: rest, j =>
    let tag := Tag.fanLimits first
    match store .motherboard tag with
    | none =>
      let others := loadChannels store time (first + 1) rest j
      (c :: others.1, others.2)
    | some (.fanLimits limits) =>
      if limits.valid then
        let others := loadChannels store time (first + 1) rest j
        ({ c with limits } :: others.1, others.2)
      else
        let others := loadChannels store time (first + 1) rest (j.note (.configRejected tag) time)
        (c :: others.1, others.2)
    | some _ =>
      let others := loadChannels store time (first + 1) rest (j.note (.configRejected tag) time)
      (c :: others.1, others.2)

def loadLimits (b : FanBank) (store : Store) (time : Instant) (j : Journal) : FanBank × Journal :=
  let loaded := loadChannels store time 0 b.channels j
  ({ b with channels := loaded.1 }, loaded.2)

def rpmOfPercent (b : FanBank) (fan : FanId) (percent : Nat) : Nat :=
  match b.channel? fan with
  | none => 0
  | some c => FanChannel.rpmOfPercent c.limits percent

def percentOfRpm (b : FanBank) (fan : FanId) (rpm : Nat) : Nat :=
  match b.channel? fan with
  | none => 0
  | some c => FanChannel.percentOfRpm c.limits rpm

def setMode (b : FanBank) (fan : FanId) (mode : FanMode) : FanBank :=
  b.modify fan fun c => { c with mode }

def setFollowsDemand (b : FanBank) (fan : FanId) (follows : Bool) : FanBank :=
  b.modify fan fun c => { c with followsDemand := follows }

def allFollow (b : FanBank) : Bool := b.channels.all (·.followsDemand)

def setChannel (b : FanBank) (fan : FanId) (c : FanChannel) : FanBank :=
  { b with channels := b.channels.set fan.index c }

def setTarget (b : FanBank) (fan : FanId) (rpm : Nat) : Except Halt FanBank :=
  match b.channel? fan with
  | none => .ok b
  | some c => (c.setTarget rpm).map (b.setChannel fan)

variable {σ : Type} [Board σ]

/-- A fan that is switched on is expected to change its speed; one that is switched off loses
its duty and keeps its output. -/
def setEnabled (b : FanBank) (fan : FanId) (on : Bool) (p : Plant σ) : FanBank × Plant σ :=
  match b.channel? fan with
  | none => (b, p)
  | some c =>
    if on then
      (b.setChannel fan { c with enabled := true, status := .changing }, p.setOutput fan true)
    else (b.setChannel fan { c with enabled := false, duty := 0 }, p.setDuty fan 0)

def setDuty (b : FanBank) (fan : FanId) (percent : Nat) (p : Plant σ) : FanBank × Plant σ :=
  match b.channel? fan with
  | none => (b, p)
  | some c =>
    (b.setChannel fan { c with duty := min percent 100 }, p.setDuty fan (min percent 100))

def measured (b : FanBank) (fan : FanId) (p : Plant σ) : Nat :=
  match b.channel? fan with
  | none => 0
  | some c => c.measured b.config (p.tach fan).period

def demand (b : FanBank) (fan : FanId) (percent : Nat) (p : Plant σ) : Except Halt FanBank :=
  match b.channel? fan with
  | none => .ok b
  | some c => (c.follow (b.measured fan p) percent).map (b.setChannel fan)

def demandOf (percent : Nat) (p : Plant σ) : List FanId → FanBank → Except Halt FanBank
  | [], b => .ok b
  | fan :: rest, b =>
    match b.demand fan percent p with
    | .error halt => .error halt
    | .ok b => demandOf percent p rest b

def applyDemand (b : FanBank) (percent : Nat) (p : Plant σ) : Except Halt FanBank :=
  demandOf percent p b.fans b

/-- What is measured of a fan fits its word, if the fan is one of those that count. -/
def measureFits (b : FanBank) (counts : FanChannel → Bool) (p : Plant σ) (fan : FanId) : Bool :=
  match b.channel? fan with
  | none => true
  | some c => !counts c || c.measureFits b.config (p.tach fan).period

/-- Only a fan that follows a demand is measured for it. -/
def demandFits (b : FanBank) (p : Plant σ) : Bool :=
  b.fans.all (b.measureFits (·.followsDemand) p)

def demandWithinWords (b : FanBank) (percent : Nat) (p : Plant σ) : Except Halt FanBank :=
  if b.demandFits p then b.applyDemand percent p else .error .wordOverflow

/-- A fan without an edge since the last step has stalled; its period is void. -/
def checkChannel (fan : FanId) (powered : Bool) (time : Instant) (c : FanChannel) (p : Plant σ) :
    FanChannel × Plant σ :=
  let edges := (p.tach fan).edges
  let seen := { c with lastEdges := edges }
  if c.idle powered then (seen, p)
  else if edges = c.lastEdges then
    if c.status = .stopped then (seen, p.clearPeriod fan)
    else
      ({ seen with status := .stopped },
        (p.clearPeriod fan).recordAt (.fanStalled fan) (.fan c.duty 0) time)
  else if c.status = .stopped then ({ seen with status := .changing }, p)
  else (seen, p)

def controlChannel (config : FanConfig) (fan : FanId) (time : Instant) (c : FanChannel)
    (p : Plant σ) : FanChannel × Plant σ :=
  if c.uncontrolled then (c, p)
  else
    let actual := c.measured config (p.tach fan).period
    let error := c.speedError actual
    let aimed := { c with lastError := error }
    match FanChannel.correction (min config.band maxSigned) error c.duty with
    | .hold => ({ aimed with status := .locked }, p)
    | .move duty => ({ aimed with status := .changing, duty }, p.setDuty fan duty)
    | .saturated =>
      ({ aimed with status := .frustrated },
        if c.status = .frustrated then p
        else p.recordAt (.fanFrustrated fan) (.fan c.duty actual) time)

/-- A channel is measured even where nothing is controlled. -/
def channelFits (config : FanConfig) (fan : FanId) (c : FanChannel) (p : Plant σ) : Bool :=
  let period := (p.tach fan).period
  c.measureFits config period && (c.uncontrolled || c.errorFits (c.measured config period))

def stepChannels (step : FanId → FanChannel → Plant σ → FanChannel × Plant σ) :
    Nat → List FanChannel → Plant σ → List FanChannel × Plant σ
  | _, [], p => ([], p)
  | first, c :: rest, p =>
    let done := step ⟨first⟩ c p
    let others := stepChannels step (first + 1) rest done.2
    (done.1 :: others.1, others.2)

/-- Whether a test holds of every channel where a run of the step comes to it. -/
def stepsFit (fits : FanId → FanChannel → Plant σ → Bool)
    (step : FanId → FanChannel → Plant σ → FanChannel × Plant σ) :
    Nat → List FanChannel → Plant σ → Bool
  | _, [], _ => true
  | first, c :: rest, p =>
    fits ⟨first⟩ c p && stepsFit fits step (first + 1) rest (step ⟨first⟩ c p).2

def healthTick (b : FanBank) (powered : Bool) (time : Instant) (p : Plant σ) : FanBank × Plant σ :=
  let done := stepChannels (fun fan c p => checkChannel fan powered time c p) 0 b.channels p
  ({ b with channels := done.1 }, done.2)

def controlTick (b : FanBank) (powered : Bool) (time : Instant) (p : Plant σ) :
    FanBank × Plant σ :=
  if powered then
    let done := stepChannels (fun fan c p => controlChannel b.config fan time c p) 0 b.channels p
    ({ b with channels := done.1 }, done.2)
  else (b, p)

def controlFits (b : FanBank) (powered : Bool) (time : Instant) (p : Plant σ) : Bool :=
  !powered || stepsFit (channelFits b.config)
    (fun fan c p => controlChannel b.config fan time c p) 0 b.channels p

def controlWithinWords (b : FanBank) (powered : Bool) (time : Instant) (p : Plant σ) :
    Except Halt (FanBank × Plant σ) :=
  if b.controlFits powered time p then .ok (b.controlTick powered time p)
  else .error .wordOverflow

def isStalled (b : FanBank) (fan : FanId) (powered : Bool) (p : Plant σ) : Bool :=
  match b.channel? fan with
  | none => false
  | some c =>
    c.enabled && c.target != 0 && c.duty != 0 && powered && b.measured fan p == 0

def snapshot (b : FanBank) (fan : FanId) (p : Plant σ) : Option FanSnapshot :=
  (b.channel? fan).map fun c =>
    { fan
      enabled := c.enabled
      mode := c.mode
      duty := c.duty
      target := c.liveTarget
      rpm := b.measured fan p
      status := c.status }

def snapshots (b : FanBank) (p : Plant σ) : Except Halt (List FanSnapshot) :=
  if b.fans.all (b.measureFits (fun _ => true) p) then .ok (b.fans.filterMap (b.snapshot · p))
  else .error .wordOverflow

end FanBank

end BoardWarden
