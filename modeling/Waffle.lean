import Waffle.Entity
import Waffle.Value
import Waffle.Ir
import Waffle.Formatter
import Waffle.Display
import Waffle.Plan
import Waffle.WellFormed
import Waffle.Hooks
import Waffle.PrePass
import Waffle.Layout
import Waffle.Util
