import Agenda.Main
import Agenda.Proofs.Document.RoundTrip
import Agenda.Proofs.Document.NormalForm
import Agenda.Proofs.Pipeline.Course
import Agenda.Proofs.Render.AtOnce
import Agenda.Proofs.Render.Columns
import Agenda.Proofs.Render.Compile
import Agenda.Proofs.Render.Grid
import Agenda.Proofs.Render.Rearranged
import Agenda.Proofs.Document.Partition
import Agenda.Proofs.Document.Concatenation
import Agenda.Proofs.CommandLine.Output
import Agenda.Proofs.Typeset.Removed
import Agenda.Proofs.Typeset.Scratch
import Agenda.Proofs.Document.HeaderLines
import Agenda.Proofs.Document.LastSetting
import Agenda.Proofs.Document.Separator
import Agenda.Proofs.Render.Headings
import Agenda.Proofs.Render.Labels
import Agenda.Proofs.Render.Markup
import Agenda.Proofs.Document.LineEnds
import Agenda.Proofs.Calendar.Cut
import Agenda.Proofs.Text.Shorten
