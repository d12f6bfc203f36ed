import ClickNotifier.Signal
import ClickNotifier.Derived
import ClickNotifier.Listeners
import ClickNotifier.ListenerLayout
import ClickNotifier.ListenerRuns
import ClickNotifier.Filter
import ClickNotifier.Search
import ClickNotifier.OpenAuthResponder
import ClickNotifier.Registration
import ClickNotifier.SearchRuns
