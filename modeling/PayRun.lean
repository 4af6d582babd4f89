import PayRun.Session
import PayRun.Log.Desk
import PayRun.Main
import PayRun.Path
import PayRun.Text.Uppercase
import PayRun.Proofs.Printing
import PayRun.Proofs.Outcome
import PayRun.Proofs.PaySlip
import PayRun.Proofs.Bonus
import PayRun.Proofs.Capacity
import PayRun.Proofs.Overflow
import PayRun.Proofs.ClosedForm
import PayRun.Proofs.Events
import PayRun.Proofs.Refused
import PayRun.Proofs.Digits
import PayRun.Proofs.PrintedAmount
import PayRun.Proofs.Spelling
import PayRun.Proofs.Decoding
import PayRun.Proofs.Quotes
import PayRun.Proofs.LogLine
import PayRun.Proofs.RunLog
import PayRun.Proofs.Monotone
import PayRun.Proofs.Repeatable
import PayRun.Proofs.Precedence
import PayRun.Proofs.Command
import PayRun.Proofs.Average
import PayRun.Proofs.Bounds
import PayRun.Proofs.Loggers
import PayRun.Proofs.Logging
import PayRun.Proofs.Overtime
import PayRun.Proofs.Disclosure
import PayRun.Proofs.Threshold
