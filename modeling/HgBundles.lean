import HgBundles.Text
import HgBundles.Config
import HgBundles.Store
import HgBundles.World
import HgBundles.Upload
import HgBundles.Generate
import HgBundles.Paths
import HgBundles.Schedule
import HgBundles.Pool
import HgBundles.Manifest
import HgBundles.Blocks
import HgBundles.Effects
import HgBundles.Frame
import HgBundles.Progress
import HgBundles.Publish
import HgBundles.Hold
import HgBundles.Jobs
import HgBundles.Fleet
import HgBundles.Summaries
import HgBundles.Lastrun
import HgBundles.Offline
import HgBundles.Formats
import HgBundles.Json
import HgBundles.Contents
import HgBundles.Backups
import HgBundles.Footprint
import HgBundles.Liveness
import HgBundles.Advertised
