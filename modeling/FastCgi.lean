import FastCgi.Listener.Tracking
import FastCgi.Main
import FastCgi.Proofs.Delivery
import FastCgi.Proofs.Process
import FastCgi.Proofs.Intake
import FastCgi.Proofs.Management
import FastCgi.Proofs.Acceptance
import FastCgi.Proofs.Answering
import FastCgi.Proofs.Cycles
import FastCgi.Proofs.Moves
import FastCgi.Proofs.Balance
import FastCgi.Proofs.Cutting
import FastCgi.Proofs.Bystanders
import FastCgi.Proofs.Terminators
import FastCgi.Proofs.Transcript
import FastCgi.Proofs.Sequence
import FastCgi.Proofs.Actions
import FastCgi.Proofs.Leftovers
import FastCgi.Proofs.Reassembly
import FastCgi.Proofs.Room
import FastCgi.Proofs.Lockstep
import FastCgi.Proofs.WriteFaults
import FastCgi.Proofs.Reception
import FastCgi.Proofs.Texts
import FastCgi.Proofs.Carriage
import FastCgi.Proofs.Attempts
import FastCgi.Proofs.Resending
import FastCgi.Proofs.Workers
import FastCgi.Proofs.Shutdowns
import FastCgi.Proofs.Admission
import FastCgi.Proofs.Evolution
import FastCgi.Proofs.Increments
import FastCgi.Proofs.Grammar
import FastCgi.Proofs.Rounds
import FastCgi.Proofs.Endings
import FastCgi.Proofs.Storage
import FastCgi.Proofs.Flushes
import FastCgi.Proofs.Mirror
import FastCgi.Proofs.Closing
import FastCgi.Proofs.Resolution
import FastCgi.Proofs.Slots
import FastCgi.Proofs.Collation
import FastCgi.Proofs.Echo
import FastCgi.Proofs.Queries
import FastCgi.Proofs.Guards
