import BoardWarden.Agenda
import BoardWarden.Bench.Act
import BoardWarden.Bench.Basic
import BoardWarden.Bench.Wiring
import BoardWarden.Board
import BoardWarden.Carrier
import BoardWarden.Chip.Basic
import BoardWarden.Chip.Console
import BoardWarden.Chip.ControlTask
import BoardWarden.Chip.Inbox
import BoardWarden.Chip.Pins
import BoardWarden.Chip.ResetCause
import BoardWarden.Chip.Sampler
import BoardWarden.Chip.Thermometer
import BoardWarden.Chip.Watch
import BoardWarden.Clock
import BoardWarden.Controller.Basic
import BoardWarden.Controller.Run
import BoardWarden.Controller.View
import BoardWarden.Cooling.Basic
import BoardWarden.Cooling.Zone
import BoardWarden.Emulator.Amount
import BoardWarden.Emulator.Command
import BoardWarden.Emulator.Dialogue
import BoardWarden.Emulator.Session
import BoardWarden.Emulator.World
import BoardWarden.Fan.Bank
import BoardWarden.Fan.Channel
import BoardWarden.Fan.Tach
import BoardWarden.Halt
import BoardWarden.Journal.Basic
import BoardWarden.Journal.Event
import BoardWarden.Main
import BoardWarden.Panel
import BoardWarden.Plant
import BoardWarden.Power.Plan
import BoardWarden.Power.Sequencer
import BoardWarden.Power.State
import BoardWarden.Rail.Bank
import BoardWarden.Rail.Basic
import BoardWarden.Rail.Report
import BoardWarden.Rail.Supervision
import BoardWarden.Rail.Tree
import BoardWarden.Settings.Expansion
import BoardWarden.Settings.Record
import BoardWarden.Text.Field
import BoardWarden.Text.Lines
import BoardWarden.Text.Words
import BoardWarden.Proofs.Power.Handlers
import BoardWarden.Proofs.Power.Train
import BoardWarden.Proofs.Power.Agreement
import BoardWarden.Proofs.Power.Routes
import BoardWarden.Proofs.Controller.Inputs
import BoardWarden.Proofs.Controller.Order
import BoardWarden.Proofs.Controller.Shutdown
import BoardWarden.Proofs.Calls
import BoardWarden.Proofs.Journal
import BoardWarden.Proofs.Rail.Deeds
import BoardWarden.Proofs.Quiet
import BoardWarden.Proofs.Rail.Work
import BoardWarden.Proofs.Rail.Supply
import BoardWarden.Proofs.Controller.Fans
import BoardWarden.Proofs.Controller.Feed
import BoardWarden.Proofs.Controller.Descent
import BoardWarden.Proofs.Controller.Override
import BoardWarden.Proofs.Bench.FanSupply
import BoardWarden.Proofs.Controller.FullCooling
import BoardWarden.Proofs.Controller.Recovery
import BoardWarden.Proofs.Rail.Views
import BoardWarden.Proofs.Power.Views
import BoardWarden.Proofs.Power.Unwinding
import BoardWarden.Proofs.Power.Waits
import BoardWarden.Proofs.Power.HardOff
import BoardWarden.Proofs.Rail.Tape
import BoardWarden.Proofs.Rail.Closure
import BoardWarden.Proofs.Bench.EnableLines
import BoardWarden.Proofs.Power.Closure
import BoardWarden.Proofs.Settings.Expansion
import BoardWarden.Proofs.Settings.Loading
import BoardWarden.Proofs.Controller.Press
import BoardWarden.Proofs.Controller.Poll
import BoardWarden.Proofs.Controller.Watchdog
import BoardWarden.Proofs.Rail.Readings
import BoardWarden.Proofs.Controller.Boot
import BoardWarden.Proofs.Controller.Loading
import BoardWarden.Proofs.Rail.Writes
import BoardWarden.Proofs.Power.Script
import BoardWarden.Proofs.Power.HeldReset
import BoardWarden.Proofs.Power.Notices
import BoardWarden.Proofs.Power.Steadiness
import BoardWarden.Proofs.Controller.Calls
import BoardWarden.Proofs.Chip.Desk
import BoardWarden.Proofs.Chip.Tasks
import BoardWarden.Proofs.Rail.Demotion
import BoardWarden.Proofs.Rail.PowerOn
import BoardWarden.Proofs.Rail.Sequence
import BoardWarden.Proofs.Rail.Teardown
import BoardWarden.Proofs.Rail.FaultCheck
import BoardWarden.Proofs.Bench.Feedback
import BoardWarden.Proofs.Controller.FaultOrder
import BoardWarden.Proofs.Cooling.Seconds
import BoardWarden.Proofs.Cooling.Reports
import BoardWarden.Proofs.Cooling.Unseen
import BoardWarden.Proofs.Fan.Outputs
import BoardWarden.Proofs.Rail.Forest
import BoardWarden.Proofs.Power.RideOut
import BoardWarden.Proofs.Controller.DueOrder
import BoardWarden.Proofs.Fan.Stalls
import BoardWarden.Proofs.Fan.Percent
import BoardWarden.Proofs.Fan.Steering
import BoardWarden.Proofs.Fan.Damping
import BoardWarden.Proofs.Fan.Settling
import BoardWarden.Proofs.Fan.Captures
import BoardWarden.Proofs.Fan.Targets
import BoardWarden.Proofs.Chip.Edges
import BoardWarden.Proofs.Cooling.Latch
import BoardWarden.Proofs.Word
import BoardWarden.Proofs.Cooling.Mean
import BoardWarden.Proofs.Settings.Outcome
import BoardWarden.Proofs.Chip.Scaling
import BoardWarden.Proofs.Emulator.Deeds
import BoardWarden.Proofs.Emulator.Runs
import BoardWarden.Proofs.Emulator.Life
import BoardWarden.Proofs.Emulator.Ledger
import BoardWarden.Proofs.Emulator.Carrying
import BoardWarden.Proofs.Emulator.Seconds
import BoardWarden.Proofs.Emulator.Log
import BoardWarden.Proofs.Agenda.History
import BoardWarden.Proofs.Cooling.Window
import BoardWarden.Proofs.Emulator.Amounts
