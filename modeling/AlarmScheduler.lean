import AlarmScheduler.Main
import AlarmScheduler.Proofs.Alarm.Dumping
import AlarmScheduler.Proofs.Alarm.Shown
import AlarmScheduler.Proofs.CommandLine
import AlarmScheduler.Proofs.Store.Draining
import AlarmScheduler.Proofs.Store.Dumps
import AlarmScheduler.Proofs.Store.Interleaving
import AlarmScheduler.Proofs.Store.Isolation
import AlarmScheduler.Proofs.Store.Messages
import AlarmScheduler.Proofs.Store.Naming
import AlarmScheduler.Proofs.Store.Opacity
import AlarmScheduler.Proofs.Store.Pushes
import AlarmScheduler.Proofs.Store.Readmission
import AlarmScheduler.Proofs.Store.Removal
import AlarmScheduler.Proofs.Store.Reordering
import AlarmScheduler.Proofs.Store.Rounds
import AlarmScheduler.Proofs.Store.Throttling
import AlarmScheduler.Proofs.Text.Durations
import AlarmScheduler.Proofs.Window.History
