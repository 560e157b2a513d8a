import EaaRecruit.Js
import EaaRecruit.Fetch
import EaaRecruit.Home.Pipeline
import EaaRecruit.Home.Uploads
import EaaRecruit.Home.App
import EaaRecruit.Home.Screen
import EaaRecruit.Admin.Roster
import EaaRecruit.Admin.Invariants
import EaaRecruit.Admin.Requests
import EaaRecruit.Home.Report
