/-!
# The built-in template

The configuration for pretraining with one curriculum metric, random layer-token dropping and
curriculum learning.
-/

namespace ConfigTemplate

/-- The file name of the built-in template. -/
def builtinName : String := "ds_config_gpt_1clmetric_TEMPLATE.json"

/-- The lines of the built-in template. -/
def builtinLines : List String := [
  "\x7b",
  "  \"train_batch_size\": GBSIZE,",
  "  \"train_micro_batch_size_per_gpu\": MBSIZE,",
  "  \"steps_per_print\": LOG_INTERVAL,",
  "",
  "  \"zero_optimization\": \x7b",
  "    \"stage\": ZERO_STAGE",
  "  \x7d,",
  "",
  "  \"gradient_clipping\": 1.0,",
  "  \"prescale_gradients\": PRESCALE_GRAD,",
  "",
  "  \"fp16\": \x7b",
  "    \"enabled\": true,",
  "    \"loss_scale\": 0,",
  "    \"loss_scale_window\": 500,",
  "    \"hysteresis\": 2,",
  "    \"min_loss_scale\": 1,",
  "    \"initial_scale_power\": 11",
  "  \x7d,",
  "",
  "  \"wall_clock_breakdown\" : false,",
  "  \"dataloader_drop_last\": true,",
  "  \"data_efficiency\": \x7b",
  "    \"enabled\": true,",
  "    \"seed\": DATA_EFFICIENCY_SEED,",
  "    \"data_routing\": \x7b",
  "      \"enabled\": LTD_ENABLED,",
  "      \"random_ltd\":\x7b",
  "        \"enabled\": LTD_ENABLED,",
  "        \"total_layer_num\": 24,",
  "        \"random_ltd_layer_num\": 22,",
  "        \"random_ltd_layer_id\": [1,2,3,4,5,6,7,8,9,10,11,12,13,14,15,16,17,18,19,20,21,22],",
  "        \"model_mask_name\": \"attention_mask\",",
  "        \"model_type\": \"decoder\",",
  "        \"hidden_state_order\": \"seq_batch_dim\",",
  "        \"random_ltd_schedule\": \x7b",
  "          \"min_value\": LTD_MIN,",
  "          \"max_value\": LTD_MAX,",
  "          \"schedule_type\":\"fixed_linear\",",
  "          \"schedule_config\": \x7b",
  "            \"require_steps\": LTD_STEP,",
  "            \"seq_per_step\": 16",
  "          \x7d",
  "        \x7d",
  "      \x7d",
  "    \x7d,",
  "    \"data_sampling\": \x7b",
  "      \"enabled\": CL_ENABLED,",
  "      \"num_workers\": DATA_SAMPLING_NUM_WORKERS,",
  "      \"curriculum_learning\": \x7b",
  "        \"enabled\": CL_ENABLED,",
  "        \"data_cluster_path\": \"CL_CLUSTER_PATH\",",
  "        \"curriculum_metrics\": \x7b",
  "          \"CL_1st_METRIC_NAME\": \x7b",
  "            \"index_to_sample_path\": \"CL_1st_SAMPLE_PATH\",",
  "            \"index_to_metric_path\": \"CL_1st_METRIC_PATH\",",
  "            \"difficulty_type\": \"CL_1st_DIFF_TYPE\",",
  "            \"clustering_type\": \"CL_1st_CLUSTER_TYPE\",",
  "            \"min_difficulty\": CL_1st_MIN,",
  "            \"max_difficulty\": CL_1st_MAX,",
  "            \"schedule_type\": \"fixed_root\",",
  "            \"schedule_config\": \x7b",
  "              \"total_curriculum_step\": CL_1st_TOTAL_STEP,",
  "              \"difficulty_step\": CL_1st_DIFF_STEP,",
  "              \"root_degree\": CL_1st_ROOT",
  "            \x7d",
  "          \x7d",
  "        \x7d",
  "      \x7d",
  "    \x7d",
  "  \x7d",
  "\x7d",
  ""]

/-- The text of the built-in template. -/
def builtinSource : String := "\n".intercalate builtinLines

end ConfigTemplate
