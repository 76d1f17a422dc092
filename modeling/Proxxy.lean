import Proxxy.Python.Value
import Proxxy.Python.Float
import Proxxy.Python.Exec
import Proxxy.Python.Json
import Proxxy.Python.JsonRoundTrip
import Proxxy.Integration.Harness
import Proxxy.Integration.Startup
import Proxxy.Integration.Traffic
import Proxxy.Integration.Verify
import Proxxy.Integration.Cleanup
import Proxxy.Integration.Run
import Proxxy.NativeHost.Frame
import Proxxy.NativeHost.Loop
import Proxxy.BodyCapture.Startup
import Proxxy.BodyCapture.Capture
import Proxxy.BodyCapture.Run
import Proxxy.Performance.Metrics
import Proxxy.Performance.Run
import Proxxy.GraphqlQueries.Execute
import Proxxy.GraphqlQueries.Suite
import Proxxy.SendRequests.Script
